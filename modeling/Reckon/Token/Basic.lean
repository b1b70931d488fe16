import Reckon.Text.Quoted

/-! Tokens: a kind, and the text the token was read from. -/

namespace Reckon

inductive Token.Kind
  /-- The end of the text. -/
  | endMarker
  /-- Text that no other kind covers. -/
  | unknown
  | number
  | name
  | var
  | plus
  | minus
  | star
  | slash
  | exclamation
  | equal
  | semicolon
  | leftParen
  | rightParen
deriving DecidableEq

structure Token where
  kind : Token.Kind := .unknown
  lexeme : String := ""
deriving DecidableEq, Inhabited

/-- A name of a variable or a type. -/
abbrev Name := String

/-- Nothing is escaped, not even a double quote. -/
def Name.dump (x : Name) : String := "Name(\"" ++ x ++ "\")"

namespace Token

def Kind.label : Kind → String
  | .endMarker => "ENDMARKER"
  | .unknown => "ERRORTOKEN"
  | .number => "NUMBER"
  | .name => "NAME"
  | .var => "VAR"
  | .plus => "PLUS"
  | .minus => "MINUS"
  | .star => "STAR"
  | .slash => "SLASH"
  | .exclamation => "EXCLAMATION"
  | .equal => "EQUAL"
  | .semicolon => "SEMI"
  | .leftParen => "LPAR"
  | .rightParen => "RPAR"

def Kind.all : List Kind :=
  [.endMarker, .unknown, .number, .name, .var, .plus, .minus, .star, .slash, .exclamation, .equal,
   .semicolon, .leftParen, .rightParen]

def Kind.ofLabel? (label : String) : Option Kind := all.find? (·.label = label)

theorem Kind.ofLabel?_label (k : Kind) : ofLabel? k.label = some k := by cases k <;> decide

def endMarker : Token := ⟨.endMarker, ""⟩

@[simp] theorem kind_endMarker : endMarker.kind = .endMarker := rfl

def var : Token := ⟨.var, "var"⟩

def equal : Token := ⟨.equal, "="⟩

def semicolon : Token := ⟨.semicolon, ";"⟩

def leftParen : Token := ⟨.leftParen, "("⟩

def rightParen : Token := ⟨.rightParen, ")"⟩

/-- One token of a listing; the lexeme stands as it is. -/
def text (t : Token) : String := t.kind.label ++ "('" ++ t.lexeme ++ "')"

def dump (t : Token) : String :=
  "Token \x7b typ: " ++ t.kind.label ++ ", lexeme: " ++ Text.quoted t.lexeme ++ " \x7d"

/-- How a message names the token. -/
def mention (t : Token) : String :=
  if t.kind = .endMarker then "end of input" else "'" ++ t.lexeme ++ "'"

end Token
end Reckon
