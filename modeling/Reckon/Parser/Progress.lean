import Reckon.Parser.Expr

/-! Reading only moves forward: what is left afterwards is a suffix of what was there before. A
reader that has to take some token leaves less. -/

namespace Reckon.ParseM

variable {α β : Type}

def Forward (m : ParseM α) : Prop := ∀ p, (m.after p).tokens <:+ p.tokens

/-- Whenever `m` succeeds, some token was read. -/
def Consumes (m : ParseM α) : Prop :=
  ∀ p a q, m p = .ok a q → q.tokens.length < p.tokens.length

theorem forward_pure (a : α) : Forward (pure a : ParseM α) := fun _ => List.suffix_refl _

theorem forward_throw (f : Failure) : Forward (throw f : ParseM α) := fun _ => List.suffix_refl _

theorem forward_fail (f : Fault) : Forward (fail f : ParseM α) := forward_throw _

theorem forward_peek : Forward peek := fun _ => List.suffix_refl _

theorem forward_advance : Forward advance := fun p => List.tail_suffix p.tokens

theorem forward_bind {m : ParseM α} {f : α → ParseM β} (hm : Forward m)
    (hf : ∀ a, Forward (f a)) : Forward (m >>= f) := by
  intro p
  have h := hm p
  change (after (EStateM.bind m f) p).tokens <:+ p.tokens
  unfold after EStateM.bind
  unfold after at h
  cases hp : m p with
  | ok a q =>
    rw [hp] at h
    exact (hf a q).trans h
  | error e q =>
    rw [hp] at h
    exact h

theorem forward_map (f : α → β) {m : ParseM α} (hm : Forward m) : Forward (f <$> m) :=
  forward_bind hm fun a => forward_pure (f a)

theorem forward_advance_then {m : ParseM α} (hm : Forward m) :
    Forward (do advance; m) :=
  forward_bind forward_advance fun _ => hm

theorem forward_take (k : Token.Kind) (f : Fault) : Forward (take k f) := by
  refine forward_bind forward_peek fun t => ?_
  split
  · exact forward_advance_then (forward_pure _)
  · exact forward_fail f

theorem Forward.length_le {m : ParseM α} (hm : Forward m) {p q : Parser} {a : α}
    (h : m p = .ok a q) : q.tokens.length ≤ p.tokens.length := by
  have := (hm p).length_le
  unfold after at this
  rwa [h] at this

theorem bind_eq_ok {m : ParseM α} {f : α → ParseM β} {p r : Parser} {b : β}
    (h : (m >>= f) p = .ok b r) : ∃ a q, m p = .ok a q ∧ f a q = .ok b r := by
  change EStateM.bind m f p = .ok b r at h
  unfold EStateM.bind at h
  cases hp : m p with
  | ok a q =>
    rw [hp] at h
    exact ⟨a, q, rfl, h⟩
  | error e q =>
    rw [hp] at h
    cases h

theorem consumes_bind {m : ParseM α} {f : α → ParseM β} (hm : Consumes m)
    (hf : ∀ a, Forward (f a)) : Consumes (m >>= f) := by
  intro p b r h
  obtain ⟨a, q, h1, h2⟩ := bind_eq_ok h
  exact Nat.lt_of_le_of_lt ((hf a).length_le h2) (hm p a q h1)

theorem consumes_bind_right {m : ParseM α} {f : α → ParseM β} (hm : Forward m)
    (hf : ∀ a, Consumes (f a)) : Consumes (m >>= f) := by
  intro p b r h
  obtain ⟨a, q, h1, h2⟩ := bind_eq_ok h
  exact Nat.lt_of_lt_of_le (hf a q b r h2) (hm.length_le h1)

theorem consumes_take {k : Token.Kind} (hk : k ≠ .endMarker) (f : Fault) :
    Consumes (take k f) := by
  intro p t q h
  obtain ⟨t, p, hp, h⟩ := bind_eq_ok h
  cases hp
  split at h
  · rename_i ht
    cases h
    cases hp : p.tokens with
    | nil => exact absurd (by simpa [Parser.current, hp] using ht.symm) hk
    | cons u us => simp [hp]
  · cases h

theorem forward_deeper {m : ParseM α} (hm : Forward m) : Forward (deeper m) := by
  intro p
  have h := hm { p with depth := p.depth + 1 }
  unfold after at h
  unfold after deeper
  cases hp : m { p with depth := p.depth + 1 } <;> rw [hp] at h <;> exact h

theorem forward_operand {r : Level → ParseM Expr} (hr : ∀ level, Forward (r level)) :
    Forward (operand r) := by
  refine forward_bind forward_peek fun t => ?_
  split
  · split
    · exact forward_advance_then (forward_pure _)
    · exact forward_throw _
  · exact forward_advance_then (forward_pure _)
  · exact forward_advance_then (forward_bind (hr _) fun _ => forward_pure _)
  · exact forward_advance_then (forward_bind (hr _) fun _ => forward_pure _)
  · exact forward_advance_then (forward_bind (hr _) fun _ =>
      forward_bind (forward_take _ _) fun _ => forward_pure _)
  · exact forward_fail _

theorem forward_extend {r : Level → ParseM Expr} (hr : ∀ level, Forward (r level))
    (level : Level) (left : Expr) : Forward (extend r level left) := by
  refine forward_bind forward_peek fun t => ?_
  split
  · split
    · exact forward_advance_then (forward_bind (hr _) fun _ => forward_pure _)
    · exact forward_pure _
  · exact forward_pure _

theorem forward_nested (room : Nat) (level : Level) : Forward (nested room level) := by
  induction room generalizing level with
  | zero => exact forward_fail _
  | succ room ih =>
    refine forward_deeper (forward_bind (forward_operand ih) fun e => ?_)
    split
    · exact forward_pure _
    · exact forward_extend ih _ _
    · exact forward_bind (forward_extend ih _ _) fun _ => forward_extend ih _ _

theorem forward_expression (level : Level) : Forward (expression level) := fun p =>
  forward_nested (maxDepth - p.depth) level p

end Reckon.ParseM
