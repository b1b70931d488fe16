import Reckon.Proofs.Independence
import Reckon.Proofs.Lookahead

/-! Statements read through the window are those read from the tokens. After a fault the window goes
on to the semicolon after which reading resumes, wherever the fault left it; on a literal that is
out of range it stays. -/

namespace Reckon

/-- What a declaration of `x` takes in after its type `t`. -/
def ParseM.value (x t : Token) : ParseM Declaration := do
  if (← peek).kind = .equal then
    advance
    return ⟨x.lexeme, t.lexeme, some (← expression .sum)⟩
  else return ⟨x.lexeme, t.lexeme, none⟩

theorem ParseM.declaration_var (v : Token) (ts : List Token) (k : Nat) :
    declaration (expression .sum) ⟨v :: ts, k⟩ =
      (take .name .missingName >>= fun x => take .name .missingType >>= fun t => value x t)
        ⟨ts, k⟩ := rfl

theorem ParseM.depth_take {k : Token.Kind} {fault : Fault} {p q : Parser} {t : Token}
    (h : take k fault p = .ok t q) : q.depth = p.depth := by
  obtain ⟨u, p, hp, h⟩ := bind_eq_ok h
  cases hp
  split at h <;> cases h
  rfl

namespace Window

section
variable {α β : Type} {ts : List Token} {w : Window}

theorem agrees_andThen {o : Work α} {f : α → Window → Option (Work β)} {m : ParseM α}
    {g : α → ParseM β} {p : Parser} (h : Follows o.result o.after (m p))
    (hf : ∀ a q, m p = .ok a q → Trails q.tokens o.after → Agrees (f a o.after) (g a q)) :
    Agrees (o.andThen f) ((m >>= g) p) := by
  intro o' ho'
  unfold Work.andThen at ho'
  obtain ⟨a, q, hm, hr, hw⟩ | ⟨e, q, hm, hr, hw⟩ := h.ok_or_error
  · rw [hr] at ho'
    dsimp only at ho'
    cases ha : f a o.after with
    | none =>
      rw [ha] at ho'
      cases ho'
    | some u =>
      rw [ha] at ho'
      obtain rfl := Option.some.inj ho'
      rw [ParseM.bind_of_ok hm]
      exact hf a q hm hw u ha
  · rw [hr] at ho'
    obtain rfl := Option.some.inj ho'
    rw [ParseM.bind_of_error hm]
    exact ⟨rfl, hw⟩

theorem expression_agrees_top (hw : At ts w) (hd : w.depth = 0) :
    Agrees (w.expression .lowest) (ParseM.expression .sum ⟨ts, 0⟩) :=
  expression_agrees maxDepth .lowest ts w 0 hw (by omega)

theorem value?_of_equal (h : w.reading.kind = .equal) :
    w.value? = (do
      let o ← w.next.next.expression .lowest
      return ((o.map some).preceded w.next.advance.calls).preceded (w.expect .equal).calls) := by
  rw [value?, expect, if_pos h]
  change Option.bind (Option.bind (w.next.next.expression .lowest) _) _ =
    Option.bind (w.next.next.expression .lowest) _
  rw [Option.bind_assoc]
  rfl

theorem value?_of_ne (h : w.reading.kind ≠ .equal) :
    w.value? = some ((done none w).preceded (w.expect .equal).calls) := by
  rw [value?, expect, if_neg h]
  rfl

theorem value?_agrees (x t : Token) {p : Parser} (hw : Trails p.tokens w) (hd : w.depth = 0)
    (hp : p.depth = 0) :
    Agrees (do return (← w.value?).map fun e? => ⟨x.lexeme, t.lexeme, e?⟩)
      (ParseM.value x t p) := by
  obtain ⟨ts, k⟩ := p
  obtain rfl : k = 0 := hp
  intro o' ho'
  rw [ParseM.value, ParseM.bind_of_ok ParseM.peek_apply]
  by_cases hq : (ts.headD .endMarker).kind = .equal
  · obtain ⟨q, ts, rfl, -⟩ := Statement.eq_cons_of_kind hq (by decide)
    obtain ⟨o, ho, -⟩ := expression_completes 0 .lowest w.next.next
    have hf := (expression_agrees_top hw.next.next hd o ho).map fun e =>
      (⟨x.lexeme, t.lexeme, some e⟩ : Declaration)
    have hmap : (o.result.map some).map (fun e? => (⟨x.lexeme, t.lexeme, e?⟩ : Declaration)) =
        o.result.map fun e => ⟨x.lexeme, t.lexeme, some e⟩ := by cases o.result <;> rfl
    rw [value?_of_equal (hw.reading ▸ hq), ho] at ho'
    obtain rfl := Option.some.inj ho'
    rw [if_pos hq, ParseM.bind_of_ok ParseM.advance_apply]
    rw [← hmap] at hf
    exact hf
  · rw [value?_of_ne (hw.reading ▸ hq)] at ho'
    obtain rfl := Option.some.inj ho'
    rw [if_neg hq]
    exact ⟨rfl, hw⟩

theorem depth_require (kind : Token.Kind) (fault : Fault) (w : Window) :
    (w.require kind fault).after.depth = w.depth := (leads_require 0 kind fault w).depth

theorem binding_agrees (hw : Trails ts w) (hd : w.depth = 0) :
    Agrees w.binding
      ((ParseM.take .name .missingName >>= fun x =>
        ParseM.take .name .missingType >>= fun t => ParseM.value x t) ⟨ts, 0⟩) := by
  have hx := require_follows .name (by decide) (by decide) .missingName hw 0
  refine agrees_andThen hx fun x q hq hw' => ?_
  have ht := require_follows .name (by decide) (by decide) .missingType hw' q.depth
  refine agrees_andThen ht fun t r hr hw'' => value?_agrees x t hw'' ?_ ?_
  · rw [depth_require, depth_require, hd]
  · rw [ParseM.depth_take hr, ParseM.depth_take hq]

theorem content_agrees (hw : At ts w) (hd : w.depth = 0) :
    Agrees w.content
      ((if (ts.headD .endMarker).kind = .var then
          Statement.declaration <$> ParseM.declaration (ParseM.expression .sum)
        else Statement.expression <$> ParseM.expression .sum : ParseM Statement) ⟨ts, 0⟩) := by
  intro o' ho'
  rw [content, hw.current] at ho'
  by_cases hk : (ts.headD .endMarker).kind = .var
  · rw [if_pos hk, ← bind_pure_comp]
    rw [if_pos hk] at ho'
    obtain ⟨v, ts, rfl, hv⟩ := Statement.eq_cons_of_kind hk (by decide)
    obtain ⟨o, ho, -⟩ := binding_completes 0 w
    rw [declaration, ho] at ho'
    obtain rfl := Option.some.inj ho'
    rw [ParseM.bind_of_eq (ParseM.declaration_var v ts 0)]
    exact (binding_agrees ⟨v, by simp [hv], hw⟩ hd o ho).map Statement.declaration
  · rw [if_neg hk, ← bind_pure_comp]
    rw [if_neg hk] at ho'
    obtain ⟨o, ho, -⟩ := expression_completes 0 .lowest w
    rw [expressionStatement, ho] at ho'
    obtain rfl := Option.some.inj ho'
    exact (expression_agrees_top hw hd o ho).map Statement.expression

/-- What is left after the next semicolon, as `Parser.recover` has it. -/
def rest (ts : List Token) : List Token := (ts.dropWhile (·.kind ≠ .semicolon)).tail

theorem skip_drops (hw : At ts w) {o : Work Unit} (ho : w.skip = some o) :
    At (rest ts) o.after.next := by
  induction ts generalizing w o with
  | nil =>
    rw [skip, if_pos (.inr (by rw [hw.reading]; rfl))] at ho
    obtain rfl := Option.some.inj ho
    exact hw.next
  | cons t ts ih =>
    have hc : w.current = t := hw.current
    rw [skip] at ho
    by_cases ht : t.kind = .semicolon
    · rw [if_pos (.inl (hc ▸ ht))] at ho
      obtain rfl := Option.some.inj ho
      have hr : rest (t :: ts) = ts := by simp [rest, ht]
      rw [hr]
      exact hw.next
    · have hr : rest (t :: ts) = rest ts := by simp [rest, ht]
      rw [hr]
      by_cases he : w.reading.kind = .endMarker
      · rw [if_pos (.inr he)] at ho
        obtain rfl := Option.some.inj ho
        obtain rfl : ts = [] := hw.next.eq_nil he
        exact hw.next
      · rw [if_neg (by simp [hc, ht, he])] at ho
        obtain ⟨u, hu, -⟩ := skip_completes 0 hw.next
        rw [hu] at ho
        obtain rfl := Option.some.inj ho
        exact ih (o := u) hw.next hu

theorem recover_drops (hw : At ts w ∨ Trails ts w) {o : Work Unit} (ho : w.recover = some o) :
    o.result = .ok () ∧ At (rest ts) o.after.next := by
  obtain ⟨us, hu, hr⟩ : ∃ us, At us w ∧ rest us = rest ts := by
    rcases hw with hw | ⟨t, ht, hw⟩
    · exact ⟨ts, hw, rfl⟩
    · exact ⟨t :: ts, hw, by simp [rest, ht]⟩
  obtain ⟨u, hs, -, hres⟩ := skip_completes 0 hu
  rw [recover, hs] at ho
  obtain rfl := Option.some.inj ho
  exact ⟨hres, hr ▸ skip_drops (o := u) hu hs⟩

/-- The window comes to rest on the semicolon that is taken. -/
theorem semicolon_follows {o : Work α} {m : ParseM α} {p : Parser}
    (h : Follows o.result o.after (m p)) :
    let u := o.bind fun a v => (v.require .semicolon .missingSemicolon).map fun _ => a
    match (m >>= fun a => ParseM.take .semicolon .missingSemicolon >>= fun _ => pure a) p with
    | .ok a q => u.result = .ok a ∧ At q.tokens u.after.next
    | .error e q => u.result = .error e ∧ Halted q.tokens u.after e := by
  unfold Work.bind
  obtain ⟨a, ⟨ts, k⟩, hm, hr, hw⟩ | ⟨e, q, hm, hr, hw⟩ := h.ok_or_error
  · rw [ParseM.bind_of_ok hm, hr]
    by_cases hk : (ts.headD .endMarker).kind = .semicolon
    · obtain ⟨hres, hafter⟩ := require_of_kind (w := o.after) .missingSemicolon (hw.reading ▸ hk)
      obtain ⟨t, us, rfl, ht⟩ := Statement.eq_cons_of_kind hk (by decide)
      rw [ParseM.bind_of_ok (ParseM.take_of_kind ht)]
      simp only [Work.preceded, Work.map, hres, hafter]
      exact ⟨rfl, hw.next.next⟩
    · obtain ⟨hres, hafter⟩ := require_of_ne (w := o.after) .missingSemicolon (hw.reading ▸ hk)
      rw [ParseM.bind_of_error (ParseM.take_of_ne hk)]
      simp only [Work.preceded, Work.map, hres, hafter]
      exact ⟨rfl, .inr hw⟩
  · rw [ParseM.bind_of_error hm, hr]
    exact ⟨rfl, hw⟩

/-- A statement is the one that is read from the tokens, and the window comes to rest on the last
token it takes, or on the literal at which it fails. -/
theorem statement_agrees (hw : At ts w) (hd : w.depth = 0) {o : Work Statement}
    (ho : w.statement = some o) :
    match Parser.statement ⟨ts, 0⟩ with
    | .ok s q => o.result = .ok s ∧ At q.tokens o.after.next
    | .error e q => o.result = .error (.literal e) ∧ At q.tokens o.after := by
  obtain ⟨c, hc, -⟩ := content_completes 0 w
  have hf := semicolon_follows (content_agrees hw hd c hc)
  have hs : ParseM.statement (ParseM.expression .sum) ⟨ts, 0⟩ =
      ((if (ts.headD .endMarker).kind = .var then
          Statement.declaration <$> ParseM.declaration (ParseM.expression .sum)
        else Statement.expression <$> ParseM.expression .sum : ParseM Statement) >>= fun s =>
          ParseM.take .semicolon .missingSemicolon >>= fun _ => pure s) ⟨ts, 0⟩ := by
    rw [ParseM.statement, ParseM.bind_of_ok ParseM.peek_apply]
    split <;> rfl
  rw [statement, hc, Option.bind_eq_bind, Option.bind_some] at ho
  rw [← hs] at hf
  rw [Parser.statement]
  generalize c.bind _ = u at ho hf
  dsimp only at ho hf
  cases hr : ParseM.statement (ParseM.expression .sum) ⟨ts, 0⟩ with
  | ok s q =>
    rw [hr] at hf
    rw [hf.1] at ho
    obtain rfl := Option.some.inj ho
    exact hf
  | error e q =>
    rw [hr] at hf
    rw [hf.1] at ho
    cases e with
    | literal e =>
      obtain rfl := Option.some.inj ho
      exact hf
    | malformed fault =>
      obtain ⟨us, hu⟩ : ∃ us, At us u.after := by
        rcases hf.2 with h | ⟨t, -, h⟩
        · exact ⟨_, h⟩
        · exact ⟨_, h⟩
      obtain ⟨v, hv, -⟩ := recover_completes 0 hu
      obtain ⟨hres, hdrop⟩ := recover_drops hf.2 hv
      dsimp only at ho
      rw [hv] at ho
      obtain rfl := Option.some.inj ho
      refine ⟨?_, hdrop⟩
      change v.result.map _ = _
      rw [hres]
      rfl

theorem depth_statement {ts : List Token} {s : Statement} {q : Parser}
    (h : Parser.statement ⟨ts, 0⟩ = .ok s q) : q.depth = 0 := by
  rcases Statement.splits 255 ts with ⟨us, r, s', rfl, hs⟩ | ⟨p, r, want, rfl, hp, hr⟩
  · rw [statement_of_derives hs] at h
    cases h
    rfl
  · rw [Parser.statement, readsStatement.expects hp hr] at h
    cases hf : want.failure (r.headD .endMarker) <;> rw [hf] at h <;> cases h
    rfl

/-- Whether work came to the same as the parser on a token list, and the window is at the tokens
that are left. -/
def Work.Matches (o : Work α) : EStateM.Result LiteralError Parser α → Prop
  | .ok a q => o.result = .ok a ∧ At q.tokens o.after
  | .error e q => o.result = .error (.literal e) ∧ At q.tokens o.after

theorem Work.matches_cons {o : Work Program} {r : EStateM.Result LiteralError Parser Program}
    (s : Statement) : o.Matches r → (o.map (s :: ·)).Matches (match r with
      | .ok ss q => .ok (s :: ss) q
      | .error e q => .error e q) := by
  intro h
  cases r with
  | ok ss q => exact ⟨congrArg (Except.map (s :: ·)) h.1, h.2⟩
  | error e q => exact ⟨congrArg (Except.map (s :: ·)) h.1, h.2⟩

theorem statementPass_agrees (hw : At ts w) (hd : w.depth = 0) {o : Work Statement}
    (ho : w.statementPass = some o) : o.Matches (Parser.statement ⟨ts, 0⟩) := by
  obtain ⟨u, hu, -⟩ := statement_completes hw hd
  have hf := statement_agrees hw hd hu
  rw [statementPass, hu] at ho
  obtain rfl := Option.some.inj ho
  cases hr : Parser.statement ⟨ts, 0⟩ with
  | ok s q =>
    rw [hr] at hf
    simp only [Work.record, Work.bind, hf.1]
    exact ⟨rfl, hf.2⟩
  | error e q =>
    rw [hr] at hf
    simp only [Work.record, Work.bind, hf.1]
    exact ⟨rfl, hf.2⟩

/-- The two loops over the statements keep step: the window is at the tokens left after each. -/
theorem statements_agrees (hw : At ts w) (hd : w.depth = 0) {o : Work Program}
    (ho : w.statements = some o) : o.Matches (Parser.program ⟨ts, 0⟩) := by
  induction hn : ts.length using Nat.strongRecOn generalizing ts w o with
  | _ n ih =>
    by_cases hts : ts = []
    · subst hts
      rw [statements, if_pos (by rw [hw.current]; rfl)] at ho
      obtain rfl := Option.some.inj ho
      rw [Parser.program, dif_pos rfl]
      exact ⟨rfl, hw⟩
    · have hc : w.current.kind ≠ .endMarker := fun h => hts (hw.eq_nil h)
      obtain ⟨u, hu, hl, -⟩ := statementPass_completes hw hd hc
      have hf := statementPass_agrees hw hd hu
      rw [statements, if_neg hc, hu, Option.bind_eq_bind, Option.bind_some] at ho
      cases hr : Parser.statement ⟨ts, 0⟩ with
      | error e q =>
        rw [hr] at hf
        rw [hf.1] at ho
        obtain rfl := Option.some.inj ho
        rw [Parser.program_of_error hts hr]
        exact ⟨rfl, hf.2⟩
      | ok s q =>
        rw [hr] at hf
        rw [hf.1] at ho
        obtain ⟨us, k⟩ := q
        obtain rfl : k = 0 := depth_statement hr
        have hlt : us.length < n := hn ▸ Parser.length_statement_lt hts hr
        have hd' : u.after.depth = 0 := hl.depth.trans hd
        obtain ⟨v, hv, -⟩ := statements_completes hf.2 hd'
        have hrest := ih _ hlt hf.2 hd' hv rfl
        dsimp only at ho
        rw [hv] at ho
        obtain rfl := Option.some.inj ho
        rw [Parser.program_of_ok hts hr]
        exact Work.matches_cons s hrest

/-- Reading a program comes to the same as on the tokens, and all it does is one call. -/
theorem program_agrees (hw : At ts w) (hd : w.depth = 0) :
    ∃ o c, w.program = some o ∧ o.Matches (Parser.program ⟨ts, 0⟩) ∧
      o.calls = [c] ∧ c.method = .program ∧ c.before = w ∧ Leads 0 w o.calls o.after := by
  obtain ⟨o, ho, hl⟩ := statements_completes hw hd
  have hf := statements_agrees hw hd ho
  rw [program, ho]
  exact ⟨_, _, rfl, hf, rfl, rfl, rfl, hl.call rfl trivial⟩

end

/-- With its window the parser comes to the same as on the tokens, and all it does is one call. -/
theorem program_eq_parse (source : String) :
    ∃ o c, (ofString source).program = some o ∧
      o.result = (parse source).mapError .literal ∧
      o.calls = [c] ∧ c.method = .program ∧ c.before = ofString source ∧
      Leads 0 (ofString source) o.calls o.after := by
  obtain ⟨o, c, ho, hf, hc⟩ := program_agrees (At.ofString source) rfl
  refine ⟨o, c, ho, ?_, hc⟩
  rw [parse, Parser.ofString]
  cases hp : Parser.program ⟨(Lexer.ofString source).tokens, 0⟩ with
  | ok p q =>
    rw [hp] at hf
    exact hf.1
  | error e q =>
    rw [hp] at hf
    exact hf.1

end Window
end Reckon
