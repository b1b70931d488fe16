import Reckon.Eval

/-! The type an expression has in an environment, by its shape and the types of its names. Nothing
is evaluated, so a typed expression may still overflow or divide by zero. -/

namespace Reckon

/-- The type of an operator's operand, which is also the type of its result. -/
def UnaryOp.ty : UnaryOp → Ty
  | .negative => .integer
  | .not => .boolean

def Environment.ty? (env : Environment) (x : Name) : Option Ty :=
  match env.get? x with
  | some (.ok v) => some v.ty
  | _ => none

def Expr.ty? (env : Environment) : Expr → Option Ty
  | .integer _ => some .integer
  | .identifier x => env.ty? x
  | .unary op e => if e.ty? env = some op.ty then some op.ty else none
  | .binary _ l r =>
    if l.ty? env = some .integer ∧ r.ty? env = some .integer then some .integer else none

end Reckon
