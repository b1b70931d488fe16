import Reckon.Parser.Basic

/-! Reading an expression. A fault leaves the parser at the token that does not fit. -/

namespace Reckon.ParseM

/-- Reads an operand; `expression` reads the expressions inside it. -/
def operand (expression : Level → ParseM Expr) : ParseM Expr := do
  let t ← peek
  match t.kind with
  | .number =>
    match Integer.ofDigits? t.lexeme with
    | some n =>
      advance
      return .integer n
    | none => throw (.literal ⟨t.lexeme⟩)
  | .name =>
    advance
    return .identifier t.lexeme
  | .minus =>
    advance
    return .unary .negative (← expression .operand)
  | .exclamation =>
    advance
    return .unary .not (← expression .operand)
  | .leftParen =>
    advance
    let e ← expression .sum
    let _ ← take .rightParen .missingRightParen
    return e
  | _ => fail (.unexpected t)

/-- Reads what an operator of `level` adds to `left`, if there is one. The right operand takes in
every further operator of the level. -/
def extend (expression : Level → ParseM Expr) (level : Level) (left : Expr) : ParseM Expr := do
  match BinaryOp.ofKind? (← peek).kind with
  | some op =>
    if op.level = level then
      advance
      return .binary op left (← expression level)
    else return left
  | none => return left

/-- Reads an expression of `level`, with room for `room` expressions one inside the other. -/
def nested : Nat → Level → ParseM Expr
  | 0, _ => fail .tooDeep
  | room + 1, level => deeper do
    let e ← operand (nested room)
    match level with
    | .operand => return e
    | .product => extend (nested room) .product e
    | .sum => extend (nested room) .sum (← extend (nested room) .product e)

def expression (level : Level) : ParseM Expr := do
  nested (maxDepth - (← get).depth) level

end Reckon.ParseM
