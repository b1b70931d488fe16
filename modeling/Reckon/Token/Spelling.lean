import Reckon.Token.Basic

/-! How tokens are spelled: the lexemes of each kind, and the texts that a list of tokens can be
read from. Blanks may stand anywhere between lexemes; where none stands, the next character must
not be one that would join the lexeme before it. -/

namespace Reckon

/-- The characters that are tokens by themselves. -/
def Token.Kind.symbols : List (Char × Token.Kind) :=
  [('+', .plus), ('-', .minus), ('*', .star), ('/', .slash), ('!', .exclamation), ('=', .equal),
   (';', .semicolon), ('(', .leftParen), (')', .rightParen)]

inductive Token.Kind.Lexeme : Token.Kind → List Char → Prop
  | symbol {k : Token.Kind} {c : Char} : (c, k) ∈ symbols → Lexeme k [c]
  | number {cs : List Char} : cs ≠ [] → (∀ c ∈ cs, c.isDigit) → Lexeme .number cs
  | var : Lexeme .var ['v', 'a', 'r']
  | name {c : Char} {cs : List Char} :
      c.isAlpha → (∀ d ∈ cs, d.isAlphanum) → c :: cs ≠ ['v', 'a', 'r'] → Lexeme .name (c :: cs)
  | unknown {c : Char} {cs : List Char} :
      ¬ c.isWhitespace → (∀ k, (c, k) ∉ symbols) → ¬ c.isAlphanum → (∀ d ∈ cs, d.isAlphanum) →
      Lexeme .unknown (c :: cs)

/-- Whether a lexeme of the kind would go on with `d`. -/
def Token.Kind.goesOn : Token.Kind → Char → Bool
  | .number, d => d.isDigit
  | .name, d | .var, d | .unknown, d => d.isAlphanum
  | _, _ => false

def Blank (cs : List Char) : Prop := ∀ c ∈ cs, c.isWhitespace

inductive Spells : List Char → List Token → Prop
  | nil {blanks : List Char} : Blank blanks → Spells blanks []
  | cons {blanks cs : List Char} {t : Token} {ts : List Token} :
      Blank blanks → t.kind.Lexeme t.lexeme.toList →
      (∀ d, cs.head? = some d → ¬ t.kind.goesOn d) → Spells cs ts →
      Spells (blanks ++ t.lexeme.toList ++ cs) (t :: ts)

end Reckon
