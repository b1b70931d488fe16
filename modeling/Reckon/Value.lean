import Reckon.Expr.Basic

/-! Values, and the ways an evaluation can fail to reach one. -/

namespace Reckon

/-- The type of a value. -/
inductive Ty
  | integer
  | boolean
deriving DecidableEq

def Ty.label : Ty → String
  | .integer => "integer"
  | .boolean => "boolean"

inductive Value
  | integer (n : Integer)
  | boolean (b : Bool)
deriving DecidableEq

inductive EvalError
  | undefined (name : Name)
  | unaryMismatch (op : UnaryOp) (operand : Ty)
  | binaryMismatch (op : BinaryOp) (left right : Ty)
  | dividedByZero
  | overflow
  | unknownType (name : Name)
  | reserved (name : Name)
  /-- What a bad statement says, or whoever put the error into an environment. -/
  | reported (message : String)
deriving DecidableEq

/-- What evaluating yields. -/
abbrev Answer := Except EvalError Value

namespace Value

def ty : Value → Ty
  | .integer _ => .integer
  | .boolean _ => .boolean

def text : Value → String
  | .integer n => n.text
  | .boolean b => if b then "true" else "false"

def dump : Value → String
  | .integer n => "Integer(" ++ n.text ++ ")"
  | .boolean b => "Boolean(" ++ (Value.boolean b).text ++ ")"

end Value

def EvalError.message : EvalError → String
  | .undefined x => "undefined variable: " ++ x
  | .unaryMismatch op t => "type mismatch: " ++ op.symbol ++ t.label
  | .binaryMismatch op l r => "type mismatch: " ++ l.label ++ " " ++ op.symbol ++ " " ++ r.label
  | .dividedByZero => "divided by zero"
  | .overflow => "integer overflow"
  | .unknownType x => "unknown type name: " ++ x
  | .reserved x => "cannot assign to reserved name: " ++ x
  | .reported message => message

namespace Answer

def isError : Answer → Bool
  | .ok _ => false
  | .error _ => true

def text : Answer → String
  | .ok v => v.text
  | .error e => e.message

def dump : Answer → String
  | .ok v => v.dump
  | .error e => "Error(" ++ Text.quoted e.message ++ ")"

end Answer
end Reckon
