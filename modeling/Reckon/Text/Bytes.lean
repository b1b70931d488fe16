/-! Texts measured in the bytes they take up in UTF-8, and their parts between byte offsets. An
offset past the end of the text or inside a character is no place to cut, and then there is no
part. -/

namespace Reckon.Text

def byteSize (cs : List Char) : Nat := (String.ofList cs).utf8ByteSize

theorem byteSize_append (cs ds : List Char) : byteSize (cs ++ ds) = byteSize cs + byteSize ds := by
  rw [byteSize, String.ofList_append, String.utf8ByteSize_append]
  rfl

theorem byteSize_toList (s : String) : byteSize s.toList = s.utf8ByteSize := by
  rw [byteSize, String.ofList_toList]

/-- Drops the first `n` bytes, unless that would cut a character or there are fewer. -/
def dropBytes? : Nat → List Char → Option (List Char)
  | 0, cs => some cs
  | _ + 1, [] => none
  | n + 1, c :: cs => if c.utf8Size ≤ n + 1 then dropBytes? (n + 1 - c.utf8Size) cs else none

/-- The text from byte `i` on. -/
def sliceFrom? (s : String) (i : Nat) : Option String :=
  (s.pos? ⟨i⟩).map fun p => (s.sliceFrom p).copy

/-- The text from byte `i` up to byte `j`. -/
def slice? (s : String) (i j : Nat) : Option String := do
  let p ← s.pos? ⟨i⟩
  let q ← s.pos? ⟨j⟩
  (s.slice? p q).map String.Slice.copy

theorem pos?_eq_some_iff {s : String} {i : String.Pos.Raw} {p : s.Pos} :
    s.pos? i = some p ↔ p.offset = i := by
  unfold String.pos? String.Slice.pos?
  split
  · simp [String.Pos.ext_iff, eq_comm]
  · rename_i h
    simp only [Option.map_none, reduceCtorEq, false_iff]
    rintro rfl
    exact h (String.Pos.Raw.isValidForSlice_eq_true_iff.2 p.isValid.toSlice)

theorem sliceFrom?_eq_some_iff {s t : String} {i : Nat} :
    sliceFrom? s i = some t ↔ ∃ pre, s = pre ++ t ∧ pre.utf8ByteSize = i := by
  rw [sliceFrom?, Option.map_eq_some_iff]
  constructor
  · rintro ⟨p, hp, rfl⟩
    rw [pos?_eq_some_iff] at hp
    exact ⟨_, p.splits.eq_append, by simp [hp]⟩
  · rintro ⟨pre, rfl, rfl⟩
    exact ⟨_, pos?_eq_some_iff.2 rfl, String.Pos.splits_append_rawEndPos.copy_sliceFrom_eq⟩

theorem slice?_eq_some_iff {s t : String} {i j : Nat} :
    slice? s i j = some t ↔
      ∃ pre suf, s = pre ++ (t ++ suf) ∧ pre.utf8ByteSize = i ∧ i + t.utf8ByteSize = j := by
  simp only [slice?, Option.bind_eq_bind, Option.bind_eq_some_iff, Option.map_eq_some_iff,
    pos?_eq_some_iff, String.slice?, Option.dite_none_right_eq_some, Option.some.injEq]
  constructor
  · rintro ⟨p, hp, q, hq, _, ⟨hpq, rfl⟩, rfl⟩
    obtain ⟨pre, suf, hpre, hsuf⟩ := String.copy_slice_eq_iff_splits.1 ⟨hpq, rfl⟩
    have hi := hp.symm.trans hpre.offset_eq_rawEndPos
    have hj := hq.symm.trans hsuf.offset_eq_rawEndPos
    simp only [String.Pos.Raw.ext_iff, String.byteIdx_rawEndPos,
      String.utf8ByteSize_append] at hi hj
    exact ⟨pre, suf, hpre.eq_append, hi.symm, by rw [hi, hj]⟩
  · rintro ⟨pre, suf, rfl, rfl, rfl⟩
    have hp := String.Pos.splits_ofEqAppend (rfl : pre ++ (t ++ suf) = pre ++ (t ++ suf))
    have hq := String.Pos.splits_ofEqAppend
      (String.append_assoc.symm : pre ++ (t ++ suf) = pre ++ t ++ suf)
    obtain ⟨hpq, ht⟩ := String.copy_slice_eq_iff_splits.2 ⟨pre, suf, hp, hq⟩
    have hj : (pre ++ t).rawEndPos = ⟨pre.utf8ByteSize + t.utf8ByteSize⟩ := by
      simp [String.Pos.Raw.ext_iff]
    exact ⟨_, hp.offset_eq_rawEndPos, _, hq.offset_eq_rawEndPos.trans hj, _, ⟨hpq, rfl⟩, ht⟩

example : sliceFrom? "a×b" 1 = some "×b" ∧ sliceFrom? "a×b" 2 = none ∧ slice? "a×b" 1 5 = none := by
  decide +kernel

theorem isValid_of_sliceFrom? {s t : String} {i : Nat} (h : sliceFrom? s i = some t) :
    String.Pos.Raw.IsValid s ⟨i⟩ := by
  obtain ⟨pre, hs, rfl⟩ := sliceFrom?_eq_some_iff.1 h
  exact String.Pos.Raw.isValid_iff_exists_append.2 ⟨pre, t, hs, rfl⟩

/-- What follows a part of a text is told by the bytes of the part. -/
theorem append_inj {a b c d : String} (h : a ++ b = c ++ d)
    (hs : a.utf8ByteSize = c.utf8ByteSize) : b = d := by
  have hb : sliceFrom? (a ++ b) a.utf8ByteSize = some b := sliceFrom?_eq_some_iff.2 ⟨a, rfl, rfl⟩
  have hd : sliceFrom? (a ++ b) a.utf8ByteSize = some d :=
    sliceFrom?_eq_some_iff.2 ⟨c, h, hs.symm⟩
  exact Option.some.inj (hb.symm.trans hd)

section
variable {s : String} {i : Nat} {cs ds : List Char}

theorem sliceFrom?_add (h : sliceFrom? s i = some (.ofList (cs ++ ds))) :
    sliceFrom? s (i + byteSize cs) = some (.ofList ds) := by
  obtain ⟨pre, rfl, rfl⟩ := sliceFrom?_eq_some_iff.1 h
  refine sliceFrom?_eq_some_iff.2 ⟨pre ++ .ofList cs, ?_, String.utf8ByteSize_append⟩
  rw [String.ofList_append, String.append_assoc]

theorem slice?_add (h : sliceFrom? s i = some (.ofList (cs ++ ds))) :
    slice? s i (i + byteSize cs) = some (.ofList cs) := by
  obtain ⟨pre, rfl, rfl⟩ := sliceFrom?_eq_some_iff.1 h
  exact slice?_eq_some_iff.2 ⟨pre, .ofList ds, by rw [String.ofList_append], rfl, rfl⟩

end

end Reckon.Text
