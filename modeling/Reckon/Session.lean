import Reckon.Eval
import Reckon.Parser.Program

/-! A session: texts run one after the other, each in the environment the one before has left. -/

namespace Reckon

/-- Runs a program and keeps the last answer; an empty program has none. -/
def Program.run (p : Program) : StateM Environment (Option Answer) := List.getLast? <$> p.exec

/-- Runs the program in `source`. A text that does not parse changes nothing. -/
def run (source : String) : StateM Environment (Except LiteralError (Option Answer)) :=
  match parse source with
  | .error e => pure (.error e)
  | .ok p => Except.ok <$> p.run

/-- What a session writes back for a text it is given. -/
def respond (source : String) : StateM Environment String := do
  match ← run source with
  | .error e => return "error: " ++ e.message ++ "\n"
  | .ok none => return ""
  | .ok (some a) => return a.text ++ "\n"

example : ((respond "7 - 2 * 3 - 1;").run {}).1 = "2\n" := by decide +kernel
example : ((respond "1; 2 / (1 - 1); 3").run {}).1 = "failed to find semicolon\n" := by
  decide +kernel
example : ((respond "-!true;").run {}).1 = "type mismatch: -boolean\n" := by decide +kernel

end Reckon
