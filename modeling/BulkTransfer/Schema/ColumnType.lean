import BulkTransfer.Config.Document
import BulkTransfer.Text.Blank
/-!
# Column types

The types of a column and the width of the slot that each takes in a record. Strings and JSON
values are of any length, so their slot holds a place and a length.
-/
namespace BulkTransfer

inductive ColumnType where
  | boolean
  | long
  | double
  | string
  | timestamp
  | json
  deriving DecidableEq, Repr, Inhabited

namespace ColumnType

def all : List ColumnType := [boolean, long, double, string, timestamp, json]

def name : ColumnType → String
  | boolean => "boolean"
  | long => "long"
  | double => "double"
  | string => "string"
  | timestamp => "timestamp"
  | json => "json"

def slotSize : ColumnType → Nat
  | boolean => 1
  | long | double => 8
  | string | json => 8
  | timestamp => 12

/-- The type of a name typed by a user; on failure, the name as it was understood. -/
def ofText (text : String) : Except String ColumnType :=
  match lowerAscii (trimBlanks text) with
  | "boolean" | "bool" => .ok boolean
  | "long" | "int" | "integer" => .ok long
  | "double" | "float" => .ok double
  | "string" | "text" => .ok string
  | "timestamp" => .ok timestamp
  | "json" => .ok json
  | other => .error other

def decode : Decoder ColumnType := Decoder.choice (all.map fun t => (t.name, t))

def toTree (t : ColumnType) : Tree := .str t.name

def valueType : ValueType ColumnType := ⟨"ColumnType", decode⟩

end ColumnType

end BulkTransfer
