import Reckon.Parser.Progress

/-! Reading statements until the tokens run out. A malformed statement becomes a bad one, and
reading goes on after its semicolon; a literal out of range ends the parse where it stands. -/

namespace Reckon

namespace ParseM

/-- Reads a declaration, whose first token is known; `expression` reads its value. -/
def declaration (expression : ParseM Expr) : ParseM Declaration := do
  advance
  let x ← take .name .missingName
  let t ← take .name .missingType
  if (← peek).kind = .equal then
    advance
    return ⟨x.lexeme, t.lexeme, some (← expression)⟩
  else return ⟨x.lexeme, t.lexeme, none⟩

/-- Reads a statement with its semicolon; `expression` reads the expression in it. -/
def statement (expression : ParseM Expr) : ParseM Statement := do
  let s ← if (← peek).kind = .var then .declaration <$> declaration expression
    else .expression <$> expression
  let _ ← take .semicolon .missingSemicolon
  return s

variable {m : ParseM Expr}

theorem forward_declaration (hm : Forward m) : Forward (declaration m) := by
  refine forward_advance_then (forward_bind (forward_take _ _) fun _ =>
    forward_bind (forward_take _ _) fun _ => forward_bind forward_peek fun _ => ?_)
  split
  · exact forward_advance_then (forward_bind hm fun _ => forward_pure _)
  · exact forward_pure _

theorem forward_statement (hm : Forward m) : Forward (statement m) := by
  refine forward_bind forward_peek fun _ => ?_
  split
  · exact forward_bind (forward_map _ (forward_declaration hm)) fun _ =>
      forward_bind (forward_take _ _) fun _ => forward_pure _
  · exact forward_bind (forward_map _ hm) fun _ =>
      forward_bind (forward_take _ _) fun _ => forward_pure _

theorem consumes_statement (hm : Forward m) : Consumes (statement m) := by
  refine consumes_bind_right forward_peek fun _ => ?_
  split
  · exact consumes_bind_right (forward_map _ (forward_declaration hm)) fun _ =>
      consumes_bind (consumes_take (by decide) _) fun _ => forward_pure _
  · exact consumes_bind_right (forward_map _ hm) fun _ =>
      consumes_bind (consumes_take (by decide) _) fun _ => forward_pure _

end ParseM

namespace Parser

/-- Drops what is left of the statement, its semicolon included. -/
def recover (p : Parser) : Parser :=
  { p with tokens := (p.tokens.dropWhile (·.kind ≠ .semicolon)).tail }

/-- Reads a statement, good or bad. -/
def statement : EStateM LiteralError Parser Statement := fun p =>
  match ParseM.statement (ParseM.expression .sum) p with
  | .ok s q => .ok s q
  | .error (.malformed fault) q => .ok (.bad fault.message) q.recover
  | .error (.literal e) q => .error e q

theorem length_recover_lt {p q : Parser} (h : q.tokens <:+ p.tokens) (hp : p.tokens ≠ []) :
    q.recover.tokens.length < p.tokens.length := by
  have := List.length_pos_iff.2 hp
  have := h.length_le
  have := (List.dropWhile_suffix (l := q.tokens) (·.kind ≠ .semicolon)).length_le
  simp only [recover, List.length_tail]
  omega

/-- A statement takes at least one token, be it good or bad. -/
theorem length_statement_lt {p q : Parser} {s : Statement} (hp : p.tokens ≠ [])
    (h : p.statement = .ok s q) : q.tokens.length < p.tokens.length := by
  have hf := ParseM.forward_statement (ParseM.forward_expression .sum) p
  unfold ParseM.after at hf
  unfold statement at h
  split at h <;> rename_i hs <;> rw [hs] at hf <;> cases h
  · exact ParseM.consumes_statement (ParseM.forward_expression .sum) p _ _ hs
  · exact length_recover_lt hf hp

/-- Reads statements up to the end of the tokens. -/
def program (p : Parser) : EStateM.Result LiteralError Parser Program :=
  if hp : p.tokens = [] then .ok [] p
  else match h : p.statement with
    | .error e q => .error e q
    | .ok s q =>
      have := length_statement_lt hp h
      match program q with
      | .ok ss r => .ok (s :: ss) r
      | .error e r => .error e r
termination_by p.tokens.length

end Parser

/-- Reads a program from its text. -/
def parse (source : String) : Except LiteralError Program :=
  match (Parser.ofString source).program with
  | .ok p _ => .ok p
  | .error e _ => .error e

end Reckon
