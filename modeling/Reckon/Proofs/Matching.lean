import Reckon.Proofs.Tokenization
import Reckon.Text.Pattern

/-! The search that goes back covers what the pattern stands for, finds it where it is, and breaks
off no run at the end. Any search that does so gives the same measure for a class followed by a run
of another. -/

namespace Reckon.Text
namespace Pattern

theorem manyThen_eq_some {p : Char → Bool} {k : List Char → Option (List Char)}
    {cs ds : List Char} (h : manyThen p k cs = some ds) :
    ∃ bs rest, cs = bs ++ rest ∧ (∀ b ∈ bs, p b) ∧ k rest = some ds := by
  induction cs with
  | nil => exact ⟨[], [], rfl, List.forall_mem_nil _, h⟩
  | cons c cs ih =>
    rw [manyThen, Option.or_eq_some_iff] at h
    rcases h with h | ⟨-, h⟩
    · obtain ⟨hc, h⟩ := Option.ite_none_right_eq_some.1 h
      obtain ⟨bs, rest, rfl, hb, hk⟩ := ih h
      exact ⟨c :: bs, rest, rfl, List.forall_mem_cons.2 ⟨hc, hb⟩, hk⟩
    · exact ⟨[], c :: cs, rfl, List.forall_mem_nil _, h⟩

theorem isSome_manyThen {p : Char → Bool} {k : List Char → Option (List Char)}
    {bs rest : List Char} (hb : ∀ b ∈ bs, p b) (h : (k rest).isSome) :
    (manyThen p k (bs ++ rest)).isSome := by
  induction bs with
  | nil =>
    cases rest with
    | nil => exact h
    | cons c cs => simp [manyThen, h]
  | cons b bs ih =>
    obtain ⟨hb, hbs⟩ := List.forall_mem_cons.1 hb
    simp [manyThen, hb, ih hbs]

theorem covers_of_rest? {ps : Pattern} {cs ds : List Char} (h : rest? ps cs = some ds) :
    ∃ bs, cs = bs ++ ds ∧ Covers ps bs := by
  induction ps generalizing cs with
  | nil =>
    cases h
    exact ⟨[], rfl, .nil⟩
  | cons part ps ih =>
    cases part with
    | one p =>
      cases cs with
      | nil => cases h
      | cons c cs =>
        obtain ⟨hc, h⟩ := Option.ite_none_right_eq_some.1 h
        obtain ⟨bs, rfl, hbs⟩ := ih h
        exact ⟨c :: bs, rfl, .one hc hbs⟩
    | many p =>
      obtain ⟨run, rest, rfl, hr, h⟩ := manyThen_eq_some h
      obtain ⟨bs, rfl, hbs⟩ := ih h
      exact ⟨run ++ bs, (List.append_assoc ..).symm, .many hr hbs⟩

theorem Covers.isSome_rest? {ps : Pattern} {bs : List Char} (h : Covers ps bs) (ds : List Char) :
    (rest? ps (bs ++ ds)).isSome := by
  induction h with
  | nil => rfl
  | one hc _ ih => rwa [List.cons_append, rest?, if_pos hc]
  | many hr _ ih =>
    rw [List.append_assoc]
    exact isSome_manyThen hr ih

theorem manyThen_some (p : Char → Bool) (cs : List Char) :
    manyThen p some cs = some (cs.dropWhile p) := by
  induction cs with
  | nil => rfl
  | cons c cs ih =>
    rw [manyThen, ih, List.dropWhile_cons]
    split <;> rfl

theorem not_of_rest?_concat {ps : Pattern} {p : Char → Bool} {cs ds : List Char}
    (h : rest? (ps ++ [.many p]) cs = some ds) : ∀ c, ds.head? = some c → ¬ p c := by
  induction ps generalizing cs with
  | nil =>
    cases (manyThen_some p cs).symm.trans h
    intro c hc
    have := List.head?_dropWhile_not p cs
    rw [hc] at this
    simpa using this
  | cons part ps ih =>
    cases part with
    | one q =>
      cases cs with
      | nil => cases h
      | cons c cs => exact ih (Option.ite_none_right_eq_some.1 h).2
    | many q =>
      obtain ⟨-, rest, -, -, h⟩ := manyThen_eq_some h
      exact ih h

theorem exists_of_find? {ps : Pattern} {s : String} {n : Nat} (h : find? ps s = some n) :
    ∃ bs rest, s = .ofList bs ++ .ofList rest ∧ byteSize bs = n ∧ Covers ps bs ∧
      rest? ps s.toList = some rest := by
  obtain ⟨rest, hr, rfl⟩ := Option.map_eq_some_iff.1 h
  obtain ⟨bs, hs, hb⟩ := covers_of_rest? hr
  refine ⟨bs, rest, ?_, ?_, hb, hr⟩
  · rw [← String.ofList_append, ← hs, String.ofList_toList]
  · rw [← byteSize_toList, hs, byteSize_append, Nat.add_sub_cancel]

/-- The search given with the patterns is one to rely on. -/
theorem find?_lawful : Search.Lawful find? where
  covers h := by
    obtain ⟨bs, rest, hs, rfl, hb, -⟩ := exists_of_find? h
    exact ⟨_, _, hs, rfl, by rwa [String.toList_ofList]⟩
  finds h := by
    rw [find?, Option.isSome_map, String.toList_append]
    exact h.isSome_rest? _
  greedy h := by
    obtain ⟨bs, rest, hs, hn, -, hr⟩ := exists_of_find? h
    rw [append_inj hs hn.symm, String.toList_ofList]
    exact not_of_rest?_concat hr

theorem covers_run_iff {p q : Char → Bool} {bs : List Char} :
    Covers [.one p, .many q] bs ↔ ∃ c cs, bs = c :: cs ∧ p c ∧ ∀ d ∈ cs, q d := by
  constructor
  · intro h
    cases h with
    | one hc h =>
      cases h with
      | many hq h =>
        cases h
        exact ⟨_, _, by rw [List.append_nil], hc, hq⟩
  · rintro ⟨c, cs, rfl, hc, hq⟩
    rw [← List.append_nil cs]
    exact .one hc (.many hq .nil)

namespace Search.Lawful

variable {find? : Search} {p : Char → Bool}

/-- A class and a run of another cover the run in full. -/
theorem find?_run (hf : find?.Lawful) {c : Char} (hc : p c) (q : Char → Bool) (cs : List Char) :
    find? [.one p, .many q] (.ofList (c :: cs)) = some (byteSize (c :: cs.takeWhile q)) := by
  have hc' : Covers [.one p, .many q] (String.ofList [c]).toList := by
    rw [String.toList_ofList]
    exact covers_run_iff.2 ⟨c, [], rfl, hc, List.forall_mem_nil _⟩
  have hfound : (find? [.one p, .many q] (.ofList [c] ++ .ofList cs)).isSome := hf.finds hc'
  obtain ⟨n, hn⟩ := Option.isSome_iff_exists.1 hfound
  rw [← String.ofList_append, List.singleton_append] at hn
  obtain ⟨pre, suf, hs, rfl, hpre⟩ := hf.covers hn
  obtain ⟨d, ds, hd, -, hq⟩ := covers_run_iff.1 hpre
  have hcs : c :: cs = d :: (ds ++ suf.toList) := by
    rw [← String.toList_ofList (l := c :: cs), hs, String.toList_append, hd, List.cons_append]
  obtain ⟨rfl, rfl⟩ := List.cons.inj hcs
  have hn' : find? ([.one p] ++ [.many q]) (pre ++ suf) = some pre.utf8ByteSize := hs ▸ hn
  rw [hn, (takeWhile_of_ends hq (hf.greedy hn')).1, ← byteSize_toList, hd]

theorem find?_eq_none (hf : find?.Lawful) {s : String} (h : ∀ c, s.toList.head? = some c → ¬ p c)
    (q : Char → Bool) : find? [.one p, .many q] s = none := by
  cases hn : find? [.one p, .many q] s with
  | none => rfl
  | some n =>
    obtain ⟨pre, suf, rfl, -, hpre⟩ := hf.covers hn
    obtain ⟨c, cs, hc, hp, -⟩ := covers_run_iff.1 hpre
    exact absurd hp (h c (by rw [String.toList_append, hc]; rfl))

theorem find?_of_not (hf : find?.Lawful) {c : Char} (hc : ¬ p c) (q : Char → Bool)
    (cs : List Char) : find? [.one p, .many q] (.ofList (c :: cs)) = none :=
  hf.find?_eq_none (by simpa [String.toList_ofList] using hc) q

end Search.Lawful
end Pattern
end Reckon.Text
