import Reckon.Expr.Basic

/-! Statements. One that could not be read stays in its program as the message that says why, so
that the statements around it still run. -/

namespace Reckon

/-- A declaration such as `var x int = 5`; without a value the type's zero is meant. -/
structure Declaration where
  name : Name
  typeName : Name
  value : Option Expr
deriving DecidableEq

inductive Statement
  | expression (e : Expr)
  | declaration (d : Declaration)
  | bad (message : String)
deriving DecidableEq

abbrev Program := List Statement

def Declaration.dump (d : Declaration) : String :=
  let value := match d.value with
    | none => "None"
    | some e => "Some(" ++ e.dump ++ ")"
  "VariableDeclaration \x7b identifier: " ++ Name.dump d.name ++ ", type_name: " ++
    Name.dump d.typeName ++ ", expression: " ++ value ++ " \x7d"

namespace Statement

def isBad : Statement → Bool
  | .bad _ => true
  | _ => false

def dump : Statement → String
  | .expression e => "Expression(" ++ e.dump ++ ")"
  | .declaration d => "VariableDeclaration(" ++ d.dump ++ ")"
  | .bad message => "Bad(" ++ Text.quoted message ++ ")"

end Statement

def Program.dump (p : Program) : String :=
  "Program \x7b statements: [" ++ ", ".intercalate (p.map Statement.dump) ++ "] \x7d"

end Reckon
