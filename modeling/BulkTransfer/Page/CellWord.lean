import BulkTransfer.Page.Cell
/-!
# Cells as words

A cell as a letter for its type, a colon and its content, for notes and for records typed by hand.
-/
namespace BulkTransfer

namespace Instant

/-- Seconds and nanoseconds with a colon between them. -/
def word (i : Instant) : String := toString i.seconds ++ ":" ++ toString i.nanos

def ofWord? (word : String) : Option Instant :=
  match word.splitOn ":" with
  | [seconds, nanos] =>
    match IntegerRange.signed64.read seconds, IntegerRange.unsigned64.read nanos with
    | .ok seconds, .ok nanos => ofParts? seconds nanos.toNat
    | _, _ => none
  | _ => none

end Instant

inductive CellWordFault where
  | malformed
  | json (cause : Tree.ReadError)
  deriving Repr

namespace Cell

/-- Longer strings, in bytes, are shown by their length alone. -/
def greatestShownSize : Nat := 512

def word : Cell → String
  | null => "N"
  | boolean b => if b then "B:true" else "B:false"
  | long n => "L:" ++ toString n.toInt
  | double x => "D:" ++ DoubleStyle.plain.write x
  | string s =>
    if s.utf8ByteSize > greatestShownSize then "S[" ++ toString s.utf8ByteSize ++ "]"
    else "S:" ++ s
  | timestamp i => "T:" ++ i.word
  | json tree => "J:" ++ tree.compact

def ofContent (letter : Char) (content : String) : Except CellWordFault Cell :=
  match letter with
  | 'S' => .ok (string content)
  | 'B' =>
    match content with
    | "true" => .ok (boolean true)
    | "false" => .ok (boolean false)
    | _ => .error .malformed
  | 'L' =>
    match IntegerRange.signed64.read content with
    | .ok n => .ok (long (Int64.ofInt n))
    | .error _ => .error .malformed
  | 'D' =>
    match Double.read content with
    | .ok x => .ok (double x)
    | .error _ => .error .malformed
  | 'T' =>
    match Instant.ofWord? content with
    | some i => .ok (timestamp i)
    | none => .error .malformed
  | 'J' =>
    match Tree.read content with
    | .ok tree => .ok (json tree)
    | .error cause => .error (.json cause)
  | _ => .error .malformed

def ofWord (word : String) : Except CellWordFault Cell :=
  match word.toList with
  | ['N'] => .ok null
  | letter :: ':' :: content => ofContent letter (String.ofList content)
  | _ => .error .malformed

end Cell

end BulkTransfer
