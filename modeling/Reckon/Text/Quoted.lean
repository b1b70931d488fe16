import Reckon.Text.Intervals

/-! Text between double quotes, on one line: what has no printed shape of its own, or would be
drawn onto its neighbour, is written as an escape. -/

namespace Reckon.Text

def escape : Char → List Char
  | '\x00' => ['\\', '0']
  | '\t' => ['\\', 't']
  | '\n' => ['\\', 'n']
  | '\r' => ['\\', 'r']
  | '\\' => ['\\', '\\']
  | '"' => ['\\', '"']
  | c =>
    if isUnprintable c || isOverlay c then
      ['\\', 'u', '\x7b'] ++ Nat.toDigits 16 c.toNat ++ ['\x7d']
    else [c]

def quoted (s : String) : String :=
  String.ofList ('"' :: s.toList.flatMap escape ++ ['"'])

example : quoted "a\tb\n" = "\"a\\tb\\n\"" := by decide +kernel
example : quoted "it's é" = "\"it's é\"" := by decide +kernel
example : quoted "e\u0301\x7f" = "\"e\\u\x7b301\x7d\\u\x7b7f\x7d\"" := by decide +kernel

end Reckon.Text
