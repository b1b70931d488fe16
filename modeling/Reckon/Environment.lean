import Std.Data.TreeMap
import Reckon.Value

/-! What names are bound to. The reserved names have their values everywhere and cannot be bound
anew; any other name has the answer last bound to it, if any. -/

namespace Reckon

/-- The value of a reserved name. -/
def builtin? : Name → Option Bool
  | "true" => some true
  | "false" => some false
  | _ => none

structure Environment where
  bindings : Std.TreeMap Name Answer := ∅

namespace Environment

def isReserved (x : Name) : Bool := (builtin? x).isSome

def get? (env : Environment) (x : Name) : Option Answer :=
  match builtin? x with
  | some b => some (.ok (.boolean b))
  | none => env.bindings[x]?

/-- Is `none` if the name is reserved. -/
def insert? (env : Environment) (x : Name) (a : Answer) : Option Environment :=
  if isReserved x then none else some { bindings := env.bindings.insert x a }

theorem get?_of_isReserved {env : Environment} {x : Name} (h : isReserved x = true) :
    env.get? x = (builtin? x).map fun b => .ok (.boolean b) := by
  unfold isReserved at h
  unfold get?
  cases hx : builtin? x with
  | none => simp [hx] at h
  | some b => rfl

theorem get?_insert {env env' : Environment} {x : Name} {a : Answer}
    (h : env.insert? x a = some env') (y : Name) :
    env'.get? y = if y = x then some a else env.get? y := by
  unfold insert? at h
  split at h
  · cases h
  · rename_i hx
    cases h
    unfold get?
    rw [Std.TreeMap.getElem?_insert]
    by_cases hy : y = x
    · subst hy
      cases hb : builtin? y with
      | none => simp
      | some b => simp [isReserved, hb] at hx
    · have : compare x y ≠ .eq := fun h => hy (Std.LawfulEqCmp.eq_of_compare h).symm
      simp [hy, this]

end Environment
end Reckon
