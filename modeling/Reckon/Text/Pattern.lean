import Reckon.Text.Bytes

/-! Patterns for the beginning of a text: classes of characters, one after the other. A search says
how many bytes of the text a pattern covers. Which search is used is left open; the one given here
goes back to shorter runs wherever the longer ones do not lead on. -/

namespace Reckon.Text

inductive Pattern.Part
  /-- One character of the class. -/
  | one (p : Char → Bool)
  /-- As many characters of the class as there are. -/
  | many (p : Char → Bool)

abbrev Pattern := List Pattern.Part

namespace Pattern

/-- The texts that a pattern covers. -/
inductive Covers : Pattern → List Char → Prop
  | nil : Covers [] []
  | one {p : Char → Bool} {ps : Pattern} {c : Char} {cs : List Char} :
      p c → Covers ps cs → Covers (.one p :: ps) (c :: cs)
  | many {p : Char → Bool} {ps : Pattern} {bs cs : List Char} :
      (∀ c ∈ bs, p c) → Covers ps cs → Covers (.many p :: ps) (bs ++ cs)

/-- Up to which byte a text is covered, if any beginning of it is. -/
abbrev Search := Pattern → String → Option Nat

/-- What is relied on in a search. -/
structure Search.Lawful (find? : Search) : Prop where
  /-- What is found ends between two characters and is covered. -/
  covers {ps : Pattern} {s : String} {n : Nat} : find? ps s = some n →
    ∃ pre suf, s = pre ++ suf ∧ pre.utf8ByteSize = n ∧ ps.Covers pre.toList
  finds {ps : Pattern} {pre suf : String} :
    ps.Covers pre.toList → (find? ps (pre ++ suf)).isSome
  /-- A run at the end is not broken off. -/
  greedy {ps : Pattern} {p : Char → Bool} {pre suf : String} :
    find? (ps ++ [.many p]) (pre ++ suf) = some pre.utf8ByteSize →
    ∀ c, suf.toList.head? = some c → ¬ p c

/-- Passes over a run of the class, the longest after which `k` leads on. -/
def manyThen (p : Char → Bool) (k : List Char → Option (List Char)) :
    List Char → Option (List Char)
  | [] => k []
  | c :: cs => (if p c then manyThen p k cs else none).or (k (c :: cs))

/-- What the pattern leaves of a text. -/
def rest? : Pattern → List Char → Option (List Char)
  | [], cs => some cs
  | .one _ :: _, [] => none
  | .one p :: ps, c :: cs => if p c then rest? ps cs else none
  | .many p :: ps, cs => manyThen p (rest? ps) cs

def find? : Search := fun ps s =>
  (rest? ps s.toList).map fun rest => s.utf8ByteSize - byteSize rest

end Pattern
end Reckon.Text
