import Reckon.Eval

/-! The exact value of an expression, reckoned over all integers, and the failure of a single node
whose operands have exact values. -/

namespace Reckon

/-- A value whose range nobody has looked at. -/
inductive ExactValue
  | integer (n : Int)
  | boolean (b : Bool)
deriving DecidableEq

def Value.exact : Value → ExactValue
  | .integer n => .integer n.toInt
  | .boolean b => .boolean b

def ExactValue.ty : ExactValue → Ty
  | .integer _ => .integer
  | .boolean _ => .boolean

namespace Expr

/-- All subexpressions, operands before what is made of them and left before right. -/
def postorder : Expr → List Expr
  | .integer n => [.integer n]
  | .identifier x => [.identifier x]
  | .unary op e => e.postorder ++ [.unary op e]
  | .binary op l r => l.postorder ++ r.postorder ++ [.binary op l r]

/-- Has no answer for an unbound name, a division by zero or an operand of the wrong type; there
is no overflow. -/
def exactValue? (env : Environment) : Expr → Option ExactValue
  | .integer n => some (.integer n.toInt)
  | .identifier x =>
    match env.get? x with
    | some (.ok v) => some v.exact
    | _ => none
  | .unary op e =>
    match op, e.exactValue? env with
    | .negative, some (.integer n) => some (.integer (-n))
    | .not, some (.boolean b) => some (.boolean !b)
    | _, _ => none
  | .binary op l r =>
    match l.exactValue? env, r.exactValue? env with
    | some (.integer a), some (.integer b) =>
      if op = .over ∧ b = 0 then none else some (.integer (op.exact a b))
    | _, _ => none

def rangeFailure? (n : Int) : Option EvalError :=
  if -0x8000000000000000 ≤ n ∧ n ≤ 0x7fffffffffffffff then none else some .overflow

/-- Why the expression has no value although its operands have theirs. -/
def failure? (env : Environment) : Expr → Option EvalError
  | .integer _ => none
  | .identifier x => if (env.get? x).isNone then some (.undefined x) else none
  | .unary op e =>
    match op, e.exactValue? env with
    | .negative, some (.integer n) => rangeFailure? (-n)
    | .not, some (.boolean _) => none
    | op, some v => some (.unaryMismatch op v.ty)
    | _, none => none
  | .binary op l r =>
    match l.exactValue? env, r.exactValue? env with
    | some (.integer a), some (.integer b) =>
      if op = .over ∧ b = 0 then some .dividedByZero else rangeFailure? (op.exact a b)
    | some v, some w => some (.binaryMismatch op v.ty w.ty)
    | _, _ => none

end Expr
end Reckon
