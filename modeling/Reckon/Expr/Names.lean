import Reckon.Statement

/-! The names an expression reads and a statement binds, and putting an expression in the place of
a name. -/

namespace Reckon

namespace Expr

def names : Expr → List Name
  | .integer _ => []
  | .identifier x => [x]
  | .unary _ e => e.names
  | .binary _ l r => l.names ++ r.names

/-- Puts `d` into every place of `x`. -/
def subst (e : Expr) (x : Name) (d : Expr) : Expr :=
  match e with
  | .integer n => .integer n
  | .identifier y => if y = x then d else .identifier y
  | .unary op e => .unary op (e.subst x d)
  | .binary op l r => .binary op (l.subst x d) (r.subst x d)

end Expr

/-- The name declared, that of the type and those of the value. -/
def Declaration.names (d : Declaration) : List Name :=
  d.name :: d.typeName :: match d.value with
    | none => []
    | some e => e.names

namespace Statement

/-- Every name in the statement. -/
def names : Statement → List Name
  | .expression e => e.names
  | .declaration d => d.names
  | .bad _ => []

def reads : Statement → List Name
  | .expression e => e.names
  | .declaration d => match d.value with
    | none => []
    | some e => e.names
  | .bad _ => []

def writes : Statement → List Name
  | .declaration d => [d.name]
  | _ => []

end Statement
end Reckon
