/-! The integers of the language: those of 64 bits with a sign. An `Integer` is in range by
construction; arithmetic is done on `Int` and comes back through `Integer.ofInt?`. -/

namespace Reckon

structure Integer where
  toInt : Int
  ge_min : -0x8000000000000000 ≤ toInt
  le_max : toInt ≤ 0x7fffffffffffffff
deriving DecidableEq

namespace Integer

/-- Is `none` out of range. -/
def ofInt? (n : Int) : Option Integer :=
  if h : -0x8000000000000000 ≤ n ∧ n ≤ 0x7fffffffffffffff then some ⟨n, h.1, h.2⟩ else none

/-- Reads decimal digits; leading zeros add nothing. -/
def ofDigits? (digits : String) : Option Integer :=
  ofInt? (Nat.ofDigitChars 10 digits.toList 0)

/-- Decimal, without leading zeros. -/
def text (a : Integer) : String :=
  let digits := String.ofList (Nat.toDigits 10 a.toInt.natAbs)
  if a.toInt < 0 then "-" ++ digits else digits

instance : Zero Integer := ⟨0, by decide, by decide⟩

@[ext] theorem ext {a b : Integer} (h : a.toInt = b.toInt) : a = b := by
  cases a; cases b; cases h; rfl

theorem ofInt?_eq_some_iff {n : Int} {a : Integer} : ofInt? n = some a ↔ a.toInt = n := by
  unfold ofInt?
  split
  · exact ⟨fun h => by cases h; rfl, fun h => by cases h; rfl⟩
  · refine ⟨nofun, fun h => ?_⟩
    have := a.ge_min
    have := a.le_max
    omega

theorem ofInt?_eq_none_iff {n : Int} :
    ofInt? n = none ↔ n < -0x8000000000000000 ∨ 0x7fffffffffffffff < n := by
  unfold ofInt?
  split
  · exact ⟨nofun, fun h => by omega⟩
  · exact ⟨fun _ => by omega, fun _ => rfl⟩

theorem ofDigits?_eq_some_iff {s : String} {a : Integer} :
    ofDigits? s = some a ↔ a.toInt = Nat.ofDigitChars 10 s.toList 0 := ofInt?_eq_some_iff

theorem ofDigits?_eq_none_iff {s : String} :
    ofDigits? s = none ↔ 0x7fffffffffffffff < Nat.ofDigitChars 10 s.toList 0 := by
  rw [ofDigits?, ofInt?_eq_none_iff]
  omega

@[simp] theorem ofInt?_toInt (a : Integer) : ofInt? a.toInt = some a := ofInt?_eq_some_iff.2 rfl

example : (ofDigits? "9223372036854775807").map text = some "9223372036854775807" := by
  decide +kernel
example : ofDigits? "9223372036854775808" = none := by decide +kernel
example : (ofDigits? "007").map text = some "7" := by decide +kernel

end Integer
end Reckon
