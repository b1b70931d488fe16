import Reckon.Text.Pattern
import Reckon.Token.Basic

/-! Reading tokens at a place in the text, given by its bytes. What is left of the text is measured
by patterns, and a token is cut out by its measure. Where a cut is out of place nothing comes of the
call: that no call is such a one is a theorem. -/

namespace Reckon

structure Cursor where
  input : String
  /-- The number of bytes read so far. -/
  start : Nat := 0

namespace Cursor

open Text Text.Pattern

/-- By which rule a token is measured. -/
inductive Rule
  | symbol
  | endOfText
  | number
  | word
  | unknown
  /-- The next character by itself, as no pattern covers it. -/
  | fallback
deriving DecidableEq

structure Reading where
  token : Token
  after : Cursor
  rule : Rule

def symbols : List (String × Token.Kind) :=
  [("+", .plus), ("-", .minus), ("*", .star), ("/", .slash), ("!", .exclamation), ("=", .equal),
   (";", .semicolon), ("(", .leftParen), (")", .rightParen)]

def keywords : List (String × Token.Kind) := [("var", .var)]

/-- The pattern `[ \t\r\n]+`. -/
def blanks : Pattern := [.one Char.isWhitespace, .many Char.isWhitespace]

/-- The pattern `[0-9]+`. -/
def digits : Pattern := [.one Char.isDigit, .many Char.isDigit]

/-- The pattern `[A-Za-z][A-Za-z0-9]*`. -/
def word : Pattern := [.one Char.isAlpha, .many Char.isAlphanum]

/-- The pattern `.[A-Za-z0-9]*`, where the dot covers any character but a line feed. -/
def unknown : Pattern := [.one (· ≠ '\n'), .many Char.isAlphanum]

def ofString (source : String) : Cursor := { input := source }

variable (find? : Search)

def skipBlanks (c : Cursor) : Option Cursor := do
  let rest ← sliceFrom? c.input c.start
  match find? blanks rest with
  | some n => return { c with start := c.start + n }
  | none => return c

/-- Takes the next `n` bytes as a token. -/
def push (rule : Rule) (k : Token.Kind) (n : Nat) (c : Cursor) : Option Reading := do
  let stop := c.start + n
  let lexeme ← slice? c.input c.start stop
  return ⟨⟨k, lexeme⟩, { c with start := stop }, rule⟩

/-- Reads a token that is no symbol and is not the end of the text. -/
def readRest (rest : String) (c : Cursor) : Option Reading := do
  match find? digits rest with
  | some n => c.push .number .number n
  | none =>
    match find? word rest with
    | some n =>
      let name ← slice? rest 0 n
      c.push .word ((keywords.lookup name).getD .name) n
    | none =>
      match find? unknown rest with
      | some n => c.push .unknown .unknown n
      | none => c.push .fallback .unknown (rest.toList.head?.elim rest.utf8ByteSize Char.utf8Size)

def read (c : Cursor) : Option Reading := do
  let rest ← sliceFrom? c.input c.start
  match symbols.find? fun e => rest.startsWith e.1 with
  | some e => c.push .symbol e.2 e.1.utf8ByteSize
  | none => if rest.isEmpty then return ⟨.endMarker, c, .endOfText⟩ else c.readRest find? rest

def next (c : Cursor) : Option Reading := do (← c.skipBlanks find?).read find?

/-- The cursor after `n` calls of `next`. -/
def after? (c : Cursor) : Nat → Option Cursor
  | 0 => some c
  | n + 1 => do
    let d ← c.after? n
    let r ← d.next find?
    return r.after

end Cursor
end Reckon
