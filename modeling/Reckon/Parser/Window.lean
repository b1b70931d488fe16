import Reckon.Parser.Program

/-! The parser at work on the lexer. It holds two tokens at a time, takes the next one when it moves
on, and keeps a record of every call it makes. Nothing bounds its loops but the text: that they end
is a theorem. -/

namespace Reckon

/-- How tightly an operator binds, the loosest first. -/
inductive Priority
  | lowest
  | additive
  | multiplicative
  | unary
deriving DecidableEq

namespace Priority

def rank : Priority → Nat
  | .lowest => 0
  | .additive => 1
  | .multiplicative => 2
  | .unary => 3

instance : LE Priority := ⟨fun a b => a.rank ≤ b.rank⟩

instance (a b : Priority) : Decidable (a ≤ b) := inferInstanceAs (Decidable (a.rank ≤ b.rank))

/-- Whatever is no binary operator binds nothing. -/
def ofKind : Token.Kind → Priority
  | .plus | .minus => .additive
  | .star | .slash => .multiplicative
  | _ => .lowest

def weaker : Priority → Priority
  | .lowest | .additive => .lowest
  | .multiplicative => .additive
  | .unary => .multiplicative

/-- The level of the expressions whose operators all bind more tightly. -/
def level : Priority → Level
  | .lowest => .sum
  | .additive => .product
  | .multiplicative | .unary => .operand

end Priority

structure Window where
  lexer : Lexer
  current : Token
  /-- The token after the current one. -/
  reading : Token
  depth : Nat := 0

namespace Window

/-- What the parser does. Each pass of a loop counts as a call of its own. -/
inductive Method
  | program
  | statement
  | declaration
  | expressionStatement
  | expression (priority : Priority)
  | nested (priority : Priority)
  | unary
  | binary
  | group
  | identifier
  | integer
  | recover
  | expect (kind : Token.Kind)
  | advance
  | statementPass
  | operatorPass
  | recoverPass
deriving DecidableEq

structure Call where
  method : Method
  before : Window
  /-- The calls made by this one, in order. -/
  inner : List Call
  after : Window
  failure : Option Failure

/-- The window inside one more expression. -/
def enter (w : Window) : Window := { w with depth := w.depth + 1 }

/-- What some work came to, with the calls made for it. -/
structure Work (α : Type) where
  result : Except Failure α
  after : Window
  calls : List Call := []

namespace Work

variable {α β : Type}

def failure (o : Work α) : Option Failure :=
  match o.result with
  | .ok _ => none
  | .error e => some e

/-- Counts all the work as one call. -/
def record (m : Method) (w : Window) (o : Work α) : Work α :=
  { o with calls := [⟨m, w, o.calls, o.after, o.failure⟩] }

/-- Puts earlier calls in front. -/
def preceded (calls : List Call) (o : Work α) : Work α :=
  { o with calls := calls ++ o.calls }

/-- Undoes `enter`. -/
def leave (o : Work α) : Work α := { o with after.depth := o.after.depth - 1 }

def map (f : α → β) (o : Work α) : Work β := { o with result := o.result.map f }

/-- Goes on with the result, unless there was a failure. -/
def bind (o : Work α) (f : α → Window → Work β) : Work β :=
  match o.result with
  | .ok a => (f a o.after).preceded o.calls
  | .error e => ⟨.error e, o.after, o.calls⟩

/-- As `bind`, with work that may never end. -/
def andThen (o : Work α) (f : α → Window → Option (Work β)) : Option (Work β) :=
  match o.result with
  | .ok a => return (← f a o.after).preceded o.calls
  | .error e => some ⟨.error e, o.after, o.calls⟩

end Work

variable {α : Type}

def ofLexer (l : Lexer) : Window :=
  { lexer := l.next.2.next.2, current := l.next.1, reading := l.next.2.next.1 }

def ofString (source : String) : Window := ofLexer (.ofString source)

/-- The window one token on. -/
def next (w : Window) : Window :=
  { w with lexer := w.lexer.next.2, current := w.reading, reading := w.lexer.next.1 }

def done (a : α) (w : Window) : Work α := ⟨.ok a, w, []⟩

def fail (failure : Failure) (w : Window) : Work α := ⟨.error failure, w, []⟩

def advance (w : Window) : Work Unit := (done () w.next).record .advance w

/-- Moves on if the next token is of the kind. -/
def expect (k : Token.Kind) (w : Window) : Work Bool :=
  (if w.reading.kind = k then w.advance.map fun _ => true else done false w).record (.expect k) w

/-- Moves on to the next token, which must be of the kind. -/
def require (k : Token.Kind) (fault : Fault) (w : Window) : Work Token :=
  (w.expect k).bind fun found v =>
    if found then done v.current v else fail (.malformed fault) v

def identifier (w : Window) : Work Expr :=
  (done (.identifier w.current.lexeme) w).record .identifier w

def integer (w : Window) : Work Expr :=
  (match Integer.ofDigits? w.current.lexeme with
    | some n => done (.integer n) w
    | none => fail (.literal ⟨w.current.lexeme⟩) w : Work Expr).record .integer w

mutual

/-- Reads an expression from its first token on and stops on its last one. -/
def expression (priority : Priority) (w : Window) : Option (Work Expr) := do
  if maxDepth ≤ w.depth then
    return (fail (.malformed .tooDeep) w).record (.expression priority) w
  let o ← w.enter |>.nested priority
  return o.leave.record (.expression priority) w
partial_fixpoint

def nested (priority : Priority) (w : Window) : Option (Work Expr) := do
  let o ← w |>.operand
  match o.result with
  | .error _ => return o.record (.nested priority) w
  | .ok left =>
    let o' ← o.after |>.operators priority left
    return (o'.preceded o.calls).record (.nested priority) w
partial_fixpoint

/-- Reads an operand, going by its first token. -/
def operand (w : Window) : Option (Work Expr) :=
  match w.current.kind with
  | .minus => w |>.unary .negative
  | .exclamation => w |>.unary .not
  | .leftParen => w |>.group
  | .name => some w.identifier
  | .number => some w.integer
  | _ => some (fail (.malformed (.unexpected w.current)) w)
partial_fixpoint

/-- Takes in the operators after `left` that bind more tightly than `priority`. -/
def operators (priority : Priority) (left : Expr) (w : Window) : Option (Work Expr) := do
  if Priority.ofKind w.reading.kind ≤ priority then
    return done left w
  match BinaryOp.ofKind? w.reading.kind with
  | none => return done left w
  | some op =>
    let o ← w |>.operator op left
    match o.result with
    | .error _ => return o
    | .ok e =>
      let o' ← o.after |>.operators priority e
      return o'.preceded o.calls
partial_fixpoint

def operator (op : BinaryOp) (left : Expr) (w : Window) : Option (Work Expr) := do
  let o ← w.next |>.binary op left
  return (o.preceded w.advance.calls).record .operatorPass w
partial_fixpoint

/-- The right operand takes in every further operator that binds as tightly. -/
def binary (op : BinaryOp) (left : Expr) (w : Window) : Option (Work Expr) := do
  let o ← w.next |>.expression (Priority.ofKind w.current.kind).weaker
  return ((o.map (.binary op left)).preceded w.advance.calls).record .binary w
partial_fixpoint

def unary (op : UnaryOp) (w : Window) : Option (Work Expr) := do
  let o ← w.next |>.expression .unary
  return ((o.map (.unary op)).preceded w.advance.calls).record .unary w
partial_fixpoint

def group (w : Window) : Option (Work Expr) := do
  let o ← w.next |>.expression .lowest
  let o' := o.bind fun e v => (v.require .rightParen .missingRightParen).map fun _ => e
  return (o'.preceded w.advance.calls).record .group w
partial_fixpoint

end

/-- Reads what a declaration sets its name to, if it says so. -/
def value? (w : Window) : Option (Work (Option Expr)) :=
  (w.expect .equal).andThen fun found v => do
    if !found then return done none v
    let o ← v.next.expression .lowest
    return (o.map some).preceded v.advance.calls

/-- Reads a declaration from its keyword on. -/
def binding (w : Window) : Option (Work Declaration) :=
  (w.require .name .missingName).andThen fun x v =>
    (v.require .name .missingType).andThen fun t u => do
      return (← u.value?).map fun e? => ⟨x.lexeme, t.lexeme, e?⟩

def declaration (w : Window) : Option (Work Declaration) := do
  return (← w.binding).record .declaration w

def expressionStatement (w : Window) : Option (Work Expr) := do
  return (← w.expression .lowest).record .expressionStatement w

/-- Goes on to a semicolon, or to the last token if none is left. -/
def skip (w : Window) : Option (Work Unit) := do
  if w.current.kind = .semicolon ∨ w.reading.kind = .endMarker then
    return done () w
  let o ← w.next |>.skip
  return o.preceded (w.advance.record .recoverPass w).calls
partial_fixpoint

def recover (w : Window) : Option (Work Unit) := do
  return (← w.skip).record .recover w

/-- Reads what stands before the semicolon. -/
def content (w : Window) : Option (Work Statement) := do
  if w.current.kind = .var then
    return (← w.declaration).map .declaration
  return (← w.expressionStatement).map .expression

/-- Reads a statement and stops on its semicolon. A malformed statement becomes a bad one. -/
def statement (w : Window) : Option (Work Statement) := do
  let parsed ← w.content
  let o := parsed.bind fun s v => (v.require .semicolon .missingSemicolon).map fun _ => s
  match o.result with
  | .error (.malformed fault) =>
    let o' ← o.after.recover
    return ((o'.map fun _ => .bad fault.message).preceded o.calls).record .statement w
  | _ => return o.record .statement w

def statementPass (w : Window) : Option (Work Statement) := do
  let o ← w.statement
  return (o.bind fun s v => v.advance.map fun _ => s).record .statementPass w

/-- Reads statements up to the end of the text. -/
def statements (w : Window) : Option (Work Program) := do
  if w.current.kind = .endMarker then
    return done [] w
  let o ← w.statementPass
  match o.result with
  | .error e => return (fail e o.after).preceded o.calls
  | .ok s =>
    let o' ← o.after |>.statements
    return (o'.map (s :: ·)).preceded o.calls
partial_fixpoint

def program (w : Window) : Option (Work Program) := do
  return (← w.statements).record .program w

end Window
end Reckon
