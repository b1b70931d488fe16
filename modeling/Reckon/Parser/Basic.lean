import Reckon.Grammar
import Reckon.Token.Lexer

/-! The state of a parser, the ways a parse can fail, and its single steps. -/

namespace Reckon

/-- What is wrong with a statement. -/
inductive Fault
  | missingSemicolon
  | missingName
  | missingType
  | missingRightParen
  | unexpected (t : Token)
  | tooDeep
deriving DecidableEq

def Fault.message : Fault → String
  | .missingSemicolon => "failed to find semicolon"
  | .missingName => "failed to find identifier of variable"
  | .missingType => "failed to find type name of variable"
  | .missingRightParen => "failed to find rparen"
  | .unexpected t => "failed to find expression: unexpected " ++ t.mention
  | .tooDeep => "expression nested too deeply"

/-- A literal that no `Integer` stands for. Unlike a fault it ends the whole parse. -/
structure LiteralError where
  literal : String
deriving DecidableEq

namespace LiteralError

def cause (_ : LiteralError) : String := "number too large to fit in target type"

def message (e : LiteralError) : String :=
  "failed to parse " ++ e.literal ++ " to integer: " ++ e.cause

end LiteralError

inductive Failure
  | malformed (fault : Fault)
  | literal (error : LiteralError)
deriving DecidableEq

structure Parser where
  /-- The tokens not yet read. Past the last one there are only end markers. -/
  tokens : List Token
  /-- How many expressions are being read, each inside the one before. -/
  depth : Nat := 0

namespace Parser

def ofString (source : String) : Parser := { tokens := (Lexer.ofString source).tokens }

/-- The first token not yet read. -/
def current (p : Parser) : Token := p.tokens.headD .endMarker

/-- The token after the current one. -/
def ahead (p : Parser) : Token := p.tokens.tail.headD .endMarker

def dump (p : Parser) : String :=
  "Parser \x7b current: " ++ p.current.dump ++ ", reading: " ++ p.ahead.dump ++ ", depth: " ++
    String.ofList (Nat.toDigits 10 p.depth) ++ " \x7d"

end Parser

abbrev ParseM := EStateM Failure Parser

namespace ParseM

def peek : ParseM Token := return (← get).current

def advance : ParseM Unit := modify fun p => { p with tokens := p.tokens.tail }

def fail {α : Type} (fault : Fault) : ParseM α := throw (.malformed fault)

/-- Reads the current token, which must be of kind `k`. -/
def take (k : Token.Kind) (fault : Fault) : ParseM Token := do
  let t ← peek
  if t.kind = k then
    advance
    return t
  else fail fault

/-- Runs `m` one expression deeper. However `m` ends, the depth is then as before. -/
def deeper {α : Type} (m : ParseM α) : ParseM α := fun p =>
  match m { p with depth := p.depth + 1 } with
  | .ok a q => .ok a { q with depth := q.depth - 1 }
  | .error e q => .error e { q with depth := q.depth - 1 }

/-- The parser as `m` leaves it. -/
def after {α : Type} (m : ParseM α) (p : Parser) : Parser :=
  match m p with
  | .ok _ q => q
  | .error _ q => q

end ParseM
end Reckon
