import Reckon.Console
import Reckon.Script

/-! The command line: `[FILE] [--dump-tokens] [--dump-ast] [--prompt TEXT] [--history FILE] [-v]`.
With a file it runs a script, without one a session on the console. -/

namespace Reckon.CommandLine

structure Arguments where
  script : Option String := none
  prompt : String := "> "
  history : Option String := none
  options : Script.Options := {}

def usage : String :=
  "usage: [FILE] [--dump-tokens] [--dump-ast] [--prompt TEXT] [--history FILE] [-v]"

/-- Reads the arguments into `a`; is `none` if they make no sense. -/
def Arguments.read? (a : Arguments) : List String → Option Arguments
  | [] => some a
  | "--dump-tokens" :: rest => { a with options.dumpTokens := true }.read? rest
  | "--dump-ast" :: rest => { a with options.dumpProgram := true }.read? rest
  | "--prompt" :: text :: rest => { a with prompt := text }.read? rest
  | "--history" :: path :: rest => { a with history := some path }.read? rest
  | "-v" :: rest | "--verbose" :: rest => a.read? rest
  | path :: rest =>
    if path.startsWith "-" || a.script.isSome then none
    else { a with script := some path }.read? rest

def readScript (path : String) : IO (Except Script.ReadError String) := do
  try
    return Script.decode (← IO.FS.readBinFile path)
  catch
    | .noFileOrDirectory .. => return .error .missing
    | .permissionDenied _ code _ => return .error (.system "Permission denied" code.toNat)
    | .inappropriateType _ code _ => return .error (.system "Is a directory" code.toNat)
    | _ => return .error (.system "Input/output error" 5)

def runScript (options : Script.Options) (path : String) : IO UInt32 := do
  let outcome := Script.run options path (← readScript path)
  IO.print outcome.output
  IO.eprint outcome.errors
  return outcome.exitCode.toUInt32

/-- Answers line after line. Gives back the lines, the last one first, and how the session ends. -/
partial def converse (prompt : String) (env : Environment) (seen : List String) :
    IO (List String × Console.Ending) := do
  IO.print prompt
  (← IO.getStdout).flush
  let input ← (← IO.getStdin).getLine
  if input.isEmpty then return (seen, .endOfInput)
  let (texts, ending) := Console.entries (Text.lines input.toList)
  let (answers, env) := (texts.mapM respond).run env
  IO.print (String.join answers)
  match ending with
  | .endOfInput => converse prompt env (input :: seen)
  | .cutCharacter => return (seen, .cutCharacter)

/-- The prompt is for someone at a terminal. -/
def runSession (a : Arguments) : IO UInt32 := do
  let prompt := if ← (← IO.getStdin).isTty then a.prompt else ""
  let (seen, ending) ← converse prompt {} []
  IO.print ending.farewell
  if let some path := a.history then
    (← IO.FS.Handle.mk path .append).putStr (String.join seen.reverse)
  return ending.exitCode.toUInt32

end Reckon.CommandLine

open Reckon.CommandLine in
def main (args : List String) : IO UInt32 := do
  match ({} : Arguments).read? args with
  | none =>
    IO.eprintln usage
    return 2
  | some a =>
    match a.script with
    | some path => runScript a.options path
    | none => runSession a
