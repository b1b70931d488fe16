import Reckon.Text.Bytes
import Reckon.Token.Basic

/-! Reading tokens from text. The first character after the blanks decides which characters may
join it, and a token is the longest run of those; at the end of the text every further token is
the end marker. -/

namespace Reckon

/-- The kind of a symbol, which is a token by itself. -/
def Token.Kind.ofSymbol? : Char → Option Token.Kind
  | '+' => some .plus
  | '-' => some .minus
  | '*' => some .star
  | '/' => some .slash
  | '!' => some .exclamation
  | '=' => some .equal
  | ';' => some .semicolon
  | '(' => some .leftParen
  | ')' => some .rightParen
  | _ => none

/-- The kind of the token `c :: cs`. A character that can begin nothing else is unknown, with the
letters and digits glued to it. -/
def Token.Kind.ofChars (c : Char) (cs : List Char) : Token.Kind :=
  match ofSymbol? c with
  | some k => k
  | none =>
    if c.isDigit then .number
    else if c.isAlpha then
      if c :: cs = ['v', 'a', 'r'] then .var else .name
    else .unknown

structure Lexer where
  rest : List Char
  /-- The number of bytes read so far. -/
  offset : Nat := 0

namespace Lexer

def ofString (source : String) : Lexer := { rest := source.toList }

/-- Whether `d` may join a token that begins with `c`. -/
def joins (c d : Char) : Bool :=
  (Token.Kind.ofSymbol? c).isNone && if c.isDigit then d.isDigit else d.isAlphanum

/-- The next token, and the lexer after it. -/
def next (l : Lexer) : Token × Lexer :=
  let start := l.offset + Text.byteSize (l.rest.takeWhile Char.isWhitespace)
  match l.rest.dropWhile Char.isWhitespace with
  | [] => (.endMarker, { rest := [], offset := start })
  | c :: cs =>
    let joined := cs.takeWhile (joins c)
    (⟨.ofChars c joined, String.ofList (c :: joined)⟩,
     { rest := cs.dropWhile (joins c), offset := start + Text.byteSize (c :: joined) })

/-- As `next`, but nothing at the end of the text. -/
def next? (l : Lexer) : Option Token × Lexer :=
  let (t, l) := l.next
  (if t.kind = .endMarker then none else some t, l)

theorem next_of_nil {l : Lexer} (h : l.rest.dropWhile Char.isWhitespace = []) :
    l.next.1 = .endMarker ∧ l.next.2.rest = [] := by
  unfold next; rw [h]; exact ⟨rfl, rfl⟩

theorem next_of_cons {l : Lexer} {c : Char} {cs : List Char}
    (h : l.rest.dropWhile Char.isWhitespace = c :: cs) :
    l.next.1 = ⟨.ofChars c (cs.takeWhile (joins c)), String.ofList (c :: cs.takeWhile (joins c))⟩ ∧
      l.next.2.rest = cs.dropWhile (joins c) := by
  unfold next; rw [h]; exact ⟨rfl, rfl⟩

theorem rest_next_lt {l : Lexer} (h : l.next.1.kind ≠ .endMarker) :
    l.next.2.rest.length < l.rest.length := by
  cases hd : l.rest.dropWhile Char.isWhitespace with
  | nil => exact absurd (congrArg Token.kind (next_of_nil hd).1) h
  | cons c cs =>
    have h1 := (List.dropWhile_suffix (l := l.rest) Char.isWhitespace).length_le
    have h2 := (List.dropWhile_suffix (l := cs) (joins c)).length_le
    rw [(next_of_cons hd).2]
    rw [hd, List.length_cons] at h1
    omega

/-- The tokens still to come, without the end marker. -/
def tokens (l : Lexer) : List Token :=
  if h : l.next.1.kind = .endMarker then []
  else
    have := rest_next_lt h
    l.next.1 :: l.next.2.tokens
termination_by l.rest.length

end Lexer

/-- The tokens of a text, closed by the end marker. -/
def tokenize (source : String) : List Token := (Lexer.ofString source).tokens ++ [.endMarker]

example : (tokenize "12ab ab12").map Token.text =
    ["NUMBER('12')", "NAME('ab')", "NAME('ab12')", "ENDMARKER('')"] := by decide +kernel
example : (tokenize "var_x#var").map Token.text =
    ["VAR('var')", "ERRORTOKEN('_x')", "ERRORTOKEN('#var')", "ENDMARKER('')"] := by decide +kernel

end Reckon
