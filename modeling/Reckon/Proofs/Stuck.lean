import Reckon.Proofs.Reading
import Reckon.Proofs.Viability

/-! Where a segment gets stuck. What is refused after some tokens comes after them in no statement,
so a reading runs on exactly as long as some statement begins like the segment. -/

namespace Reckon
namespace Statement

theorem Expects.not_derives {d : Nat} {p r : List Token} {w : Want} {s : Statement}
    (h : Expects (d + 1) p w) (hr : w.Refuses (r.headD .endMarker)) :
    ¬ Derives (d + 1) (p ++ r) s := by
  intro hs
  -- One run of the parser would have to succeed and to fail.
  have hm := ParseM.reads_statement (ParseM.reads_nested (d + 1) 0 .sum)
  have ho := hm.derives (r := []) hs
  rw [List.append_nil, hm.expects h hr] at ho
  cases ho

/-- No statement at all begins with a refused token, however deep it may be. -/
theorem Expects.not_viable {c d : Nat} {p : List Token} {t : Token} {w : Want} (h : Expects c p w)
    (hw : w ≠ .depth) (ht : w.Refuses t) : ¬ Viable d (p ++ [t]) := by
  rintro ⟨us, s, hs⟩
  have h' : Expects (max c d + 1) p w := h.mono (by omega) hw
  have hs' : Derives (max c d + 1) (p ++ t :: us) s := by
    simpa using hs.mono (d := max c d + 1) (by omega)
  exact h'.not_derives (r := t :: us) ht hs'

theorem Expects.not_viable_of_depth {d : Nat} {p : List Token} (h : Expects (d + 1) p .depth) :
    ¬ Viable (d + 1) p := by
  rintro ⟨us, s, hs⟩
  exact h.not_derives trivial hs

/-- What comes after some tokens in one statement is wanted after them in all. -/
theorem Expects.not_refuses_sample {c d : Nat} {p : List Token} {w w' : Want}
    (h : Expects (d + 1) p w) (hw : w ≠ .depth) (h' : Expects c p w') (hw' : w' ≠ .depth) :
    ¬ w'.Refuses w.sample :=
  fun hr => h'.not_viable hw' hr (h.viable hw)

end Statement

/-- `p` is the longest beginning of `seg` that some statement begins with, and `t` comes after. -/
structure StuckAt (seg p : List Token) (t : Token) : Prop where
  viable : Statement.Viable maxDepth p
  longest {q : List Token} : q <+: seg → Statement.Viable maxDepth q → q.length ≤ p.length
  next : ∃ r, seg = p ++ r ∧ t = r.headD .endMarker

namespace StuckAt

theorem unique {seg p q : List Token} {t u : Token} (h : StuckAt seg p t)
    (h' : StuckAt seg q u) : p = q ∧ t = u := by
  obtain ⟨r, hr, rfl⟩ := h.next
  obtain ⟨r', hr', rfl⟩ := h'.next
  have hp : p <+: seg := ⟨r, hr.symm⟩
  have hq : q <+: seg := ⟨r', hr'.symm⟩
  have hl : p.length = q.length := by
    have := h.longest hq h'.viable
    have := h'.longest hp h.viable
    omega
  obtain ⟨rfl, rfl⟩ := List.append_inj (hr.symm.trans hr') hl
  exact ⟨rfl, rfl⟩

theorem of_viable {p r : List Token} (hp : Statement.Viable maxDepth p)
    (hr : ∀ t ∈ r.head?, ¬ Statement.Viable maxDepth (p ++ [t])) :
    StuckAt (p ++ r) p (r.headD .endMarker) := by
  refine ⟨hp, ?_, r, rfl, rfl⟩
  intro q hq hv
  rcases Nat.lt_or_ge p.length q.length with hlt | hge
  · have hpq := List.prefix_of_prefix_length_le (List.prefix_append p r) hq (Nat.le_of_lt hlt)
    obtain ⟨u, rfl⟩ := hpq
    obtain ⟨v, hv'⟩ := hq
    rw [List.append_assoc, List.append_cancel_left_eq] at hv'
    cases u with
    | nil => simp at hlt
    | cons t u =>
      subst hv'
      refine absurd (Statement.Viable.of_append (q := u) ?_) (hr t rfl)
      simpa using hv
  · exact hge

theorem of_expects {p r : List Token} {w : Want} (h : Statement.Expects maxDepth p w)
    (hw : w ≠ .depth) (hr : w.Refuses (r.headD .endMarker)) :
    StuckAt (p ++ r) p (r.headD .endMarker) := by
  refine .of_viable (h.viable hw).of_append fun t ht => h.not_viable hw ?_
  rwa [List.headD_eq_head?_getD, ht] at hr

end StuckAt

end Reckon
