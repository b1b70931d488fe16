import Reckon.Session
import Reckon.Text.LineBuffer

/-! A session on the console: each line is answered before the next one is read, until the input
ends or a backspace cuts a character in two. -/

namespace Reckon.Console

inductive Ending
  | endOfInput
  | cutCharacter
deriving DecidableEq

namespace Ending

/-- The end of the input is marked as the key press that would have caused it. -/
def farewell : Ending → String
  | .endOfInput => "CTRL-D\n"
  | .cutCharacter => ""

def exitCode : Ending → Nat
  | .endOfInput => 0
  | .cutCharacter => 101

end Ending

/-- The texts that the lines come to before the session ends, and how it ends. -/
def entries : List (List Char) → List String × Ending
  | [] => ([], .endOfInput)
  | l :: ls =>
    match Text.typed? l with
    | none => ([], .cutCharacter)
    | some cs =>
      let (texts, ending) := entries ls
      (String.ofList cs :: texts, ending)

/-- All that is written when `input` is typed into a new session, and how the session ends. -/
def transcript (input : String) : String × Ending :=
  let (texts, ending) := entries (Text.lines input.toList)
  let (answers, _) := (texts.mapM respond).run {}
  (String.join answers ++ ending.farewell, ending)

example : (transcript "var x int;\nx - 1;\r\n\nx").1 =
    "0\n-1\nfailed to find semicolon\nCTRL-D\n" := by decide +kernel

end Reckon.Console
