import Reckon.Text.Bytes
import Reckon.Text.Cluster

/-! The lines of a text, and a line while it is typed, cluster by cluster. A backspace takes back the
bytes of the cluster typed last. It finds their number in a single byte, so a cluster of 256 bytes
or more loses only what its size leaves over when it is divided by 256, and the rest of it stays. -/

namespace Reckon.Text

/-- A line ends at a line feed, and a carriage return just before it belongs to the end. The last
line need not be ended. -/
def lines : List Char → List (List Char)
  | [] => []
  | '\n' :: cs => [] :: lines cs
  | '\r' :: '\n' :: cs => [] :: lines cs
  | c :: cs =>
    match lines cs with
    | [] => [[c]]
    | l :: ls => (c :: l) :: ls

example : lines "a\r\nb\n\nc\r".toList = ["a", "b", "", "c\r"].map String.toList := by
  decide +kernel

structure LineBuffer where
  /-- The characters of the line, the last one first. -/
  text : List Char := []
  /-- How many bytes the next backspace takes back, then the one after it, and so on. -/
  widths : List UInt8 := []

def backspace : Char := '\x08'

namespace LineBuffer

def push (b : LineBuffer) (cluster : List Char) : LineBuffer :=
  { text := cluster.reverse ++ b.text, widths := (byteSize cluster).toUInt8 :: b.widths }

/-- Takes back a cluster, if there is one. Is `none` if a character would be cut. -/
def erase? (b : LineBuffer) : Option LineBuffer :=
  match b.widths with
  | [] => some b
  | w :: ws => (dropBytes? w.toNat b.text).map fun text => { text, widths := ws }

def type? (b : LineBuffer) (cluster : List Char) : Option LineBuffer :=
  if cluster = [backspace] then b.erase? else some (b.push cluster)

end LineBuffer

/-- The line that is there once all of `keys` are typed. -/
def typed? (keys : List Char) : Option (List Char) :=
  ((clusters keys).foldlM LineBuffer.type? {}).map (·.text.reverse)

example : typed? "ab\x08\x08\x08c".toList = some ['c'] := by decide +kernel
example : typed? "xe\u0301\x08y".toList = some ['x', 'y'] := by decide +kernel
example : typed? ('é' :: .replicate 129 '\u0301' ++ [backspace]) =
    some ('é' :: .replicate 127 '\u0301') := by decide +kernel
example : typed? ('日' :: .replicate 127 '\u0301' ++ [backspace]) = none := by decide +kernel

end Reckon.Text
