import Reckon.Proofs.Expectation

/-! Viable beginnings: those that some expression or statement goes on from. What is expected keeps
a beginning viable. Where only depth is missing, the tokens but the last are viable, and with more
depth all of them are. -/

namespace Reckon

namespace Expr

/-- Some expression of the level begins with `p`. -/
def Viable (d : Nat) (level : Level) (p : List Token) : Prop :=
  ∃ us e, Derives d level (p ++ us) e

theorem Viable.of_append {d : Nat} {level : Level} {p q : List Token}
    (h : Viable d level (p ++ q)) : Viable d level p := by
  obtain ⟨us, e, he⟩ := h
  exact ⟨q ++ us, e, by rwa [List.append_assoc] at he⟩

theorem Derives.viable {d : Nat} {level : Level} {ts : List Token} {e : Expr}
    (h : Derives d level ts e) : Viable d level ts := ⟨[], e, by rwa [List.append_nil]⟩

theorem Viable.loosen {d : Nat} {level : Level} {p : List Token} (hl : level ≠ .operand)
    (h : Viable d level.tighter p) : Viable d level p := by
  obtain ⟨us, e, he⟩ := h
  exact ⟨us, e, he.loosen hl⟩

theorem Viable.group {d : Nat} {l : Token} {p : List Token} (hl : l.kind = .leftParen)
    (h : Viable d .sum p) : Viable (d + 1) .operand (l :: p) := by
  obtain ⟨us, e, he⟩ := h
  exact ⟨us ++ [.rightParen], e, by simpa using Derives.group (r := .rightParen) hl rfl he⟩

theorem Viable.unary {d : Nat} {op : UnaryOp} {t : Token} {p : List Token} (ht : t.kind = op.kind)
    (h : Viable d .operand p) : Viable (d + 1) .operand (t :: p) := by
  obtain ⟨us, e, he⟩ := h
  exact ⟨us, _, .unary ht he⟩

theorem Viable.binary {d : Nat} {op : BinaryOp} {level : Level} {t : Token} {ls p : List Token}
    {l : Expr} (hop : op.level = level) (ht : t.kind = op.kind)
    (hl : Derives (d + 1) level.tighter ls l) (h : Viable d level p) :
    Viable (d + 1) level (ls ++ t :: p) := by
  obtain ⟨us, e, he⟩ := h
  exact ⟨us, _, by simpa using Derives.binary hop ht hl he⟩

theorem derives_zero (d : Nat) : Derives (d + 1) .operand [.zero] (.integer 0) :=
  .number rfl (by decide)

/-- What is wanted can come: the tokens before it and its sample begin an expression. -/
theorem Expects.viable {d : Nat} {level : Level} {p : List Token} {w : Want}
    (h : Expects d level p w) (hw : w ≠ .depth) : Viable d level (p ++ [w.sample]) := by
  induction h with
  | depth => exact absurd rfl hw
  | operand => exact (derives_zero _).viable
  | group hl _ ih => exact (ih hw).group hl
  | close hl he => exact (Derives.group hl rfl he).viable
  | unary ht _ ih => exact (ih hw).unary ht
  | binary hop ht hl _ ih => simpa using (ih hw).binary hop ht hl
  | product _ ih => exact (ih hw).loosen (by decide)
  | sum _ ih => exact (ih hw).loosen (by decide)

theorem Expects.viable_succ {d : Nat} {level : Level} {p : List Token}
    (h : Expects d level p .depth) : Viable (d + 1) level p :=
  (h.succ.viable (by decide)).of_append

/-- Where depth is missing, it is missing for what the last token has begun. -/
theorem Expects.depth_cases {d : Nat} {level : Level} {p : List Token}
    (h : Expects d level p .depth) :
    (d = 0 ∧ p = []) ∨ ∃ q t, p = q ++ [t] ∧ Viable d level q := by
  generalize hw : Want.depth = w at h
  induction h with
  | depth => exact .inl ⟨rfl, rfl⟩
  | operand | close => cases hw
  | group hl _ ih =>
    rcases ih hw with ⟨-, rfl⟩ | ⟨q, t, rfl, hq⟩
    · exact .inr ⟨[], _, rfl, (derives_zero _).viable.of_append (p := [])⟩
    · exact .inr ⟨_, t, rfl, hq.group hl⟩
  | unary ht _ ih =>
    rcases ih hw with ⟨-, rfl⟩ | ⟨q, t, rfl, hq⟩
    · exact .inr ⟨[], _, rfl, (derives_zero _).viable.of_append (p := [])⟩
    · exact .inr ⟨_, t, rfl, hq.unary ht⟩
  | @binary _ op _ _ _ _ _ _ hop ht hl _ ih =>
    rcases ih hw with ⟨-, rfl⟩ | ⟨q, t, rfl, hq⟩
    · exact .inr ⟨_, _, rfl, (hl.loosen (hop ▸ op.level_ne_operand)).viable⟩
    · exact .inr ⟨_, t, by simp, hq.binary hop ht hl⟩
  | product _ ih =>
    rcases ih hw with h | ⟨q, t, rfl, hq⟩
    · exact .inl h
    · exact .inr ⟨q, t, rfl, hq.loosen (by decide)⟩
  | sum _ ih =>
    rcases ih hw with h | ⟨q, t, rfl, hq⟩
    · exact .inl h
    · exact .inr ⟨q, t, rfl, hq.loosen (by decide)⟩

end Expr

namespace Statement

/-- Some statement begins with `p`. -/
def Viable (d : Nat) (p : List Token) : Prop := ∃ us s, Derives d (p ++ us) s

theorem Viable.of_append {d : Nat} {p q : List Token} (h : Viable d (p ++ q)) : Viable d p := by
  obtain ⟨us, s, hs⟩ := h
  exact ⟨q ++ us, s, by rwa [List.append_assoc] at hs⟩

theorem Derives.viable {d : Nat} {ts : List Token} {s : Statement} (h : Derives d ts s) :
    Viable d ts := ⟨[], s, by rwa [List.append_nil]⟩

theorem viable_expression {d : Nat} {p : List Token} (h : Expr.Viable d .sum p) : Viable d p := by
  obtain ⟨us, e, he⟩ := h
  exact ⟨us ++ [.semicolon], _, by simpa using Derives.expression he (s := .semicolon) rfl⟩

section
variable {d : Nat} {v x t q : Token} (hv : v.kind = .var) (hx : x.kind = .name)
  (ht : t.kind = .name) (hq : q.kind = .equal)
include hv hx ht

theorem viable_zero : Viable d [v, x, t, .semicolon] := (Derives.zero hv hx ht rfl).viable

include hq

theorem viable_value {p : List Token} (h : Expr.Viable d .sum p) :
    Viable d (v :: x :: t :: q :: p) := by
  obtain ⟨us, e, he⟩ := h
  exact ⟨us ++ [.semicolon], _,
    by simpa using Derives.value hv hx ht hq he (s := .semicolon) rfl⟩

end

theorem Expects.viable {d : Nat} {p : List Token} {w : Want} (h : Expects (d + 1) p w)
    (hw : w ≠ .depth) : Viable (d + 1) (p ++ [w.sample]) := by
  cases h with
  | start =>
    have hz : Expr.Viable (d + 1) .product [.zero] :=
      (Expr.derives_zero d).viable.loosen (by decide)
    exact viable_expression (hz.loosen (by decide))
  | name hv =>
    have hz := viable_zero (d := d + 1) hv (x := ⟨.name, "x"⟩) rfl (t := ⟨.name, "x"⟩) rfl
    exact hz.of_append (p := [_, _])
  | typeName hv hx =>
    have hz := viable_zero (d := d + 1) hv hx (t := ⟨.name, "x"⟩) rfl
    exact hz.of_append (p := [_, _, _])
  | value hv hx ht => exact viable_zero hv hx ht
  | inside _ he => exact viable_expression (he.viable hw)
  | insideValue hv hx ht hq he => exact viable_value hv hx ht hq (he.viable hw)
  | after he => exact (Derives.expression he rfl).viable
  | afterValue hv hx ht hq he => exact (Derives.value hv hx ht hq he rfl).viable

theorem Expects.viable_succ {d : Nat} {p : List Token} (h : Expects d p .depth) :
    Viable (d + 1) p := by
  cases h with
  | inside _ he => exact viable_expression he.viable_succ
  | insideValue hv hx ht hq he => exact viable_value hv hx ht hq he.viable_succ

theorem Expects.depth_cases {d : Nat} {p : List Token} (h : Expects (d + 1) p .depth) :
    ∃ q t, p = q ++ [t] ∧ Viable (d + 1) q := by
  cases h with
  | inside _ he =>
    rcases he.depth_cases with ⟨h, -⟩ | ⟨q, t, rfl, hq⟩
    · cases h
    · exact ⟨q, t, rfl, viable_expression hq⟩
  | insideValue hv hx ht hq he =>
    rcases he.depth_cases with ⟨h, -⟩ | ⟨p, t, rfl, hp⟩
    · cases h
    · exact ⟨_, t, rfl, viable_value hv hx ht hq hp⟩

end Statement
end Reckon
