import Reckon.Session

/-! Running a script: what it writes, and how it ends. -/

namespace Reckon.Script

structure Options where
  dumpTokens : Bool := false
  dumpProgram : Bool := false

/-- Why the text of a script could not be had. -/
inductive ReadError
  /-- The system's words for what went wrong, and its number for it. -/
  | system (description : String) (code : Nat)
  | notText

inductive Error
  | unreadable (path : String) (error : ReadError)
  | literal (error : LiteralError)

structure Outcome where
  exitCode : Nat
  output : String
  errors : String

def ReadError.missing : ReadError := .system "No such file or directory" 2

def ReadError.cause : ReadError → String
  | .system description code =>
    description ++ " (os error " ++ String.ofList (Nat.toDigits 10 code) ++ ")"
  | .notText => "stream did not contain valid UTF-8"

/-- The text that the bytes of a file encode. -/
def decode (bytes : ByteArray) : Except ReadError String :=
  match String.fromUTF8? bytes with
  | some source => .ok source
  | none => .error .notText

namespace Error

/-- Names the file as not found, whatever the reason. -/
def message : Error → String
  | .unreadable path _ => path ++ " not found. No such file or directory."
  | .literal e => e.message

def cause : Error → String
  | .unreadable _ e => e.cause
  | .literal e => e.cause

def report (e : Error) : String :=
  "Error: " ++ e.message ++ "\n\nCaused by:\n    " ++ e.cause ++ "\n"

end Error

def line (s : String) : String := s ++ "\n"

/-- The listing of a script's tokens, the end marker included. -/
def tokenListing (source : String) : String :=
  line "Tokens:" ++ String.join ((tokenize source).map fun t => line t.text)

/-- The listing of a program's statements, between empty lines. -/
def programListing (p : Program) : String :=
  line "" ++ line "Parsed result:" ++ String.join (p.map fun s => line s.dump) ++ line ""

/-- What a program writes when it is run by itself. -/
def result (p : Program) : String :=
  match (p.run.run {}).1 with
  | none => ""
  | some a => line a.text

def fail (e : Error) (output : String) : Outcome := ⟨1, output, e.report⟩

/-- Runs the script at `path`, given what reading it came to. The tokens are listed even when they
do not parse. -/
def run (options : Options) (path : String) : Except ReadError String → Outcome
  | .error e => fail (.unreadable path e) ""
  | .ok source =>
    let listing := if options.dumpTokens then tokenListing source else ""
    match parse source with
    | .error e => fail (.literal e) listing
    | .ok p =>
      ⟨0, listing ++ (if options.dumpProgram then programListing p else "") ++ result p, ""⟩

end Reckon.Script
