import Reckon.Environment
import Reckon.Statement

/-! Evaluation. Operands are evaluated from left to right, and the first failure is the answer. A
declaration binds its name only when its value is found. -/

namespace Reckon

/-- The integer `n`, or an overflow. -/
def Answer.ofInt (n : Int) : Answer :=
  match Integer.ofInt? n with
  | some a => .ok (.integer a)
  | none => .error .overflow

def UnaryOp.apply : UnaryOp → Value → Answer
  | .negative, .integer a => .ofInt (-a.toInt)
  | .not, .boolean b => .ok (.boolean !b)
  | op, v => .error (.unaryMismatch op v.ty)

namespace BinaryOp

/-- The exact result over all integers; division rounds toward zero. -/
def exact : BinaryOp → Int → Int → Int
  | .plus, a, b => a + b
  | .minus, a, b => a - b
  | .times, a, b => a * b
  | .over, a, b => a.tdiv b

def apply : BinaryOp → Value → Value → Answer
  | op, .integer a, .integer b =>
    if op = .over ∧ b.toInt = 0 then .error .dividedByZero else .ofInt (op.exact a.toInt b.toInt)
  | op, l, r => .error (.binaryMismatch op l.ty r.ty)

end BinaryOp

def Expr.eval (env : Environment) : Expr → Answer
  | .integer n => .ok (.integer n)
  | .identifier x => (env.get? x).getD (.error (.undefined x))
  | .unary op e => do op.apply (← e.eval env)
  | .binary op l r => do
    let a ← l.eval env
    let b ← r.eval env
    op.apply a b

/-- What a declaration without a value gives its name. -/
def zero (typeName : Name) : Answer :=
  if typeName = "int" then .ok (.integer 0) else .error (.unknownType typeName)

/-- What a declaration gives its name. -/
def Declaration.eval (env : Environment) (d : Declaration) : Answer :=
  match d.value with
  | some e => e.eval env
  | none => zero d.typeName

def Declaration.exec (d : Declaration) : StateM Environment Answer := fun env =>
  match d.eval env with
  | .error e => (.error e, env)
  | .ok v =>
    match env.insert? d.name (.ok v) with
    | some env' => (.ok v, env')
    | none => (.error (.reserved d.name), env)

def Statement.exec : Statement → StateM Environment Answer
  | .expression e => fun env => (e.eval env, env)
  | .declaration d => d.exec
  | .bad message => fun env => (.error (.reported message), env)

/-- The answers of all statements, in order. -/
def Program.exec (p : Program) : StateM Environment (List Answer) := p.mapM Statement.exec

end Reckon
