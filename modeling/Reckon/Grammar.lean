import Reckon.Statement

/-! The grammar of statements over tokens, and the tree each derivation stands for. Operators of
one level nest to the right, products bind tighter than sums, and unary operators tightest. A
derivation carries a depth: what stands in parentheses, after a unary operator or to the right of
a binary one has one less, and nothing derives at depth 0. -/

namespace Reckon

/-- The depth an expression of a program may use up. -/
def maxDepth : Nat := 256

/-- What the digits of a number come to. -/
def Token.value (t : Token) : Nat := Nat.ofDigitChars 10 t.lexeme.toList 0

inductive Expr.Derives : Nat → Level → List Token → Expr → Prop
  | number {d : Nat} {t : Token} {n : Integer} :
      t.kind = .number → n.toInt = t.value →
      Derives (d + 1) .operand [t] (.integer n)
  | name {d : Nat} {t : Token} :
      t.kind = .name → Derives (d + 1) .operand [t] (.identifier t.lexeme)
  | group {d : Nat} {l r : Token} {ts : List Token} {e : Expr} :
      l.kind = .leftParen → r.kind = .rightParen → Derives d .sum ts e →
      Derives (d + 1) .operand (l :: ts ++ [r]) e
  | unary {d : Nat} {op : UnaryOp} {t : Token} {ts : List Token} {e : Expr} :
      t.kind = op.kind → Derives d .operand ts e →
      Derives (d + 1) .operand (t :: ts) (.unary op e)
  | binary {d : Nat} {op : BinaryOp} {level : Level} {t : Token} {ls rs : List Token}
      {l r : Expr} :
      op.level = level → t.kind = op.kind → Derives (d + 1) level.tighter ls l →
      Derives d level rs r → Derives (d + 1) level (ls ++ t :: rs) (.binary op l r)
  | product {d : Nat} {ts : List Token} {e : Expr} :
      Derives d .operand ts e → Derives d .product ts e
  | sum {d : Nat} {ts : List Token} {e : Expr} :
      Derives d .product ts e → Derives d .sum ts e

/-- A statement with its semicolon, whose expression has depth `d` to use up. -/
inductive Statement.Derives (d : Nat) : List Token → Statement → Prop
  | expression {ts : List Token} {e : Expr} {s : Token} :
      Expr.Derives d .sum ts e → s.kind = .semicolon →
      Derives d (ts ++ [s]) (.expression e)
  | zero {v x t s : Token} :
      v.kind = .var → x.kind = .name → t.kind = .name → s.kind = .semicolon →
      Derives d [v, x, t, s] (.declaration ⟨x.lexeme, t.lexeme, none⟩)
  | value {v x t q s : Token} {ts : List Token} {e : Expr} :
      v.kind = .var → x.kind = .name → t.kind = .name → q.kind = .equal →
      Expr.Derives d .sum ts e → s.kind = .semicolon →
      Derives d (v :: x :: t :: q :: ts ++ [s]) (.declaration ⟨x.lexeme, t.lexeme, some e⟩)

end Reckon
