import Reckon.Integer
import Reckon.Token.Basic

/-! Expressions and their operators. Parentheses leave no node. -/

namespace Reckon

inductive UnaryOp
  | negative
  | not
deriving DecidableEq

inductive BinaryOp
  | plus
  | minus
  | times
  | over
deriving DecidableEq

/-- How tightly an expression holds together, the tightest first. -/
inductive Level
  /-- A number, a name, a unary operator with its operand, or anything in parentheses. -/
  | operand
  | product
  | sum
deriving DecidableEq

inductive Expr
  | integer (value : Integer)
  | identifier (name : Name)
  | unary (op : UnaryOp) (operand : Expr)
  | binary (op : BinaryOp) (left right : Expr)
deriving DecidableEq

namespace Level

def rank : Level → Nat
  | .operand => 0
  | .product => 1
  | .sum => 2

instance : LE Level := ⟨fun a b => a.rank ≤ b.rank⟩

instance (a b : Level) : Decidable (a ≤ b) := inferInstanceAs (Decidable (a.rank ≤ b.rank))

/-- The next tighter level. -/
def tighter : Level → Level
  | .sum => .product
  | _ => .operand

end Level

namespace UnaryOp

def symbol : UnaryOp → String
  | .negative => "-"
  | .not => "!"

def label : UnaryOp → String
  | .negative => "Negative"
  | .not => "Not"

def kind : UnaryOp → Token.Kind
  | .negative => .minus
  | .not => .exclamation

def ofKind? : Token.Kind → Option UnaryOp
  | .minus => some .negative
  | .exclamation => some .not
  | _ => none

theorem ofKind?_eq_some_iff {k : Token.Kind} {op : UnaryOp} :
    ofKind? k = some op ↔ k = op.kind := by
  cases k <;> cases op <;> decide

end UnaryOp

namespace BinaryOp

def symbol : BinaryOp → String
  | .plus => "+"
  | .minus => "-"
  | .times => "*"
  | .over => "/"

def label : BinaryOp → String
  | .plus => "Plus"
  | .minus => "Minus"
  | .times => "Asterisk"
  | .over => "Slash"

def kind : BinaryOp → Token.Kind
  | .plus => .plus
  | .minus => .minus
  | .times => .star
  | .over => .slash

def ofKind? : Token.Kind → Option BinaryOp
  | .plus => some .plus
  | .minus => some .minus
  | .star => some .times
  | .slash => some .over
  | _ => none

theorem ofKind?_eq_some_iff {k : Token.Kind} {op : BinaryOp} :
    ofKind? k = some op ↔ k = op.kind := by
  cases k <;> cases op <;> decide

/-- The level of what the operator builds. -/
def level : BinaryOp → Level
  | .plus | .minus => .sum
  | .times | .over => .product

end BinaryOp

namespace Expr

def level : Expr → Level
  | .binary op _ _ => op.level
  | _ => .operand

/-- A leaf has height 1. -/
def height : Expr → Nat
  | .integer _ | .identifier _ => 1
  | .unary _ e => e.height + 1
  | .binary _ l r => max l.height r.height + 1

def dump : Expr → String
  | .integer n => "Integer(" ++ n.text ++ ")"
  | .identifier x => "Identifier(" ++ x.dump ++ ")"
  | .unary op e => "Prefix(" ++ op.label ++ ", " ++ e.dump ++ ")"
  | .binary op l r => "Infix(" ++ op.label ++ ", (" ++ l.dump ++ ", " ++ r.dump ++ "))"

end Expr
end Reckon
