import BulkTransfer.Config.Document
import BulkTransfer.Text.Blank
/-!
# Line ends

The three ways to end a line, and files cut into lines. A line that is no UTF-8 is refused for
itself alone; a last line needs no end.
-/
namespace BulkTransfer

inductive Newline where
  | lf
  | crlf
  | cr
  deriving DecidableEq, Repr

namespace Newline

def all : List Newline := [lf, crlf, cr]

def name : Newline → String
  | lf => "LF"
  | crlf => "CRLF"
  | cr => "CR"

def separator : Newline → String
  | lf => "\n"
  | crlf => "\r\n"
  | cr => "\r"

/-- The line end of a name in any case; on failure, the name as it was understood. -/
def ofText (text : String) : Except String Newline :=
  match upperAscii text with
  | "LF" => .ok lf
  | "CRLF" => .ok crlf
  | "CR" => .ok cr
  | other => .error other

def unknownMessage (name : String) : String := "Unknown newline: " ++ name

def decode : Decoder Newline := Decoder.choice (all.map fun n => (n.name, n))

def toTree (n : Newline) : Tree := .str n.name

def valueType : ValueType Newline := ⟨"Newline", decode⟩

def lineFeed : UInt8 := 0x0A
def carriageReturn : UInt8 := 0x0D

/-- A line ended by a line feed does not keep a carriage return before it. -/
def dropReturn (reversed : Bytes) : Bytes :=
  match reversed with
  | b :: rest => if b = carriageReturn then rest else b :: rest
  | [] => []

/-- Takes bytes up to a line end: the lines that are complete, and what is left. `line` is what the
current line holds so far, reversed. -/
def cutFrom (n : Newline) : Bytes → (line : Bytes) → List Bytes × Bytes
  | [], line => ([], line.reverse)
  | b :: rest, line =>
    match n with
    | .lf =>
      if b = lineFeed then
        let (lines, left) := cutFrom n rest []
        ((dropReturn line).reverse :: lines, left)
      else cutFrom n rest (b :: line)
    | .cr =>
      if b = carriageReturn then
        let (lines, left) := cutFrom n rest []
        (line.reverse :: lines, left)
      else cutFrom n rest (b :: line)
    | .crlf =>
      if b = lineFeed ∧ line.head? = some carriageReturn then
        let (lines, left) := cutFrom n rest []
        ((line.drop 1).reverse :: lines, left)
      else cutFrom n rest (b :: line)

/-- The complete lines of some bytes, and what is left behind the last line end. -/
def cut (n : Newline) (bytes : Bytes) : List Bytes × Bytes := cutFrom n bytes []

end Newline

end BulkTransfer
