import Reckon.Statement

/-! Programs written back as text. An operand stands in parentheses only where it holds together
less tightly than its place asks for, and single spaces divide the tokens. -/

namespace Reckon

def UnaryOp.token (op : UnaryOp) : Token := ⟨op.kind, op.symbol⟩

def BinaryOp.token (op : BinaryOp) : Token := ⟨op.kind, op.symbol⟩

/-- Fits the tokens of an expression of `level` into a place for `place`. -/
def enclose (place level : Level) (ts : List Token) : List Token :=
  if level ≤ place then ts else .leftParen :: ts ++ [.rightParen]

def Expr.tokens : Expr → List Token
  | .integer n => [⟨.number, n.text⟩]
  | .identifier x => [⟨.name, x⟩]
  | .unary op e => op.token :: enclose .operand e.level e.tokens
  | .binary op l r =>
    enclose op.level.tighter l.level l.tokens ++ op.token :: enclose op.level r.level r.tokens

def Declaration.tokens (d : Declaration) : List Token :=
  let value := match d.value with
    | none => []
    | some e => .equal :: e.tokens
  .var :: ⟨.name, d.name⟩ :: ⟨.name, d.typeName⟩ :: value

/-- Of a bad statement only the semicolon is left. -/
def Statement.tokens : Statement → List Token
  | .expression e => e.tokens ++ [.semicolon]
  | .declaration d => d.tokens ++ [.semicolon]
  | .bad _ => [.semicolon]

def Program.tokens (p : Program) : List Token := p.flatMap Statement.tokens

def Program.source (p : Program) : String :=
  " ".intercalate ((Program.tokens p).map Token.lexeme)

end Reckon
