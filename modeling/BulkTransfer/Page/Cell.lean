import BulkTransfer.Schema.Basic
import BulkTransfer.Time.Timestamp
/-!
# Cells

The values of a record.
-/
namespace BulkTransfer

inductive Cell where
  | null
  | boolean (value : Bool)
  | long (value : Int64)
  | double (value : Double)
  | string (value : String)
  | timestamp (value : Instant)
  | json (value : Tree)
  deriving Repr, Inhabited

namespace Cell

def type? : Cell → Option ColumnType
  | null => none
  | boolean _ => some .boolean
  | long _ => some .long
  | double _ => some .double
  | string _ => some .string
  | timestamp _ => some .timestamp
  | json _ => some .json

def isNull : Cell → Bool
  | null => true
  | _ => false

/-- A cell shown to a reader. -/
def text : Cell → String
  | null => "NULL"
  | boolean b => if b then "true" else "false"
  | long n => toString n.toInt
  | double x => DoubleStyle.plain.write x
  | string s => s
  | timestamp i => i.cellText
  | json tree => tree.compact

def toTree : Cell → Tree
  | null => .str "Null"
  | boolean b => .obj [("Boolean", .bool b)]
  | long n => .obj [("Long", .ofInt n.toInt)]
  | double x => .obj [("Double", Tree.ofDouble x)]
  | string s => .obj [("String", .str s)]
  | timestamp i => .obj [("Timestamp", .str (i.rfc3339 "Z"))]
  | json tree => .obj [("Json", tree)]

def variants : List String :=
  ["Boolean", "Long", "Double", "String", "Timestamp", "Json", "Null"]

def decodeInstant : Decoder Instant
  | .str s =>
    match Instant.ofLooseRfc3339 s with
    | .ok i => .ok i
    | .error fault => .error (.refused fault.message)
  | found => .error (.wrongType found "an RFC 3339 formatted date and time string")

def decodeContent (variant : String) (content : Tree) : Except DecodeError Cell :=
  match variant with
  | "Boolean" => (Decoder.bool content).map boolean
  | "Long" => (Decoder.long content).map fun n => long (Int64.ofInt n)
  | "Double" => (Decoder.double content).map double
  | "String" => (Decoder.string content).map string
  | "Timestamp" => (decodeInstant content).map timestamp
  | "Json" => .ok (json content)
  | "Null" =>
    match content with
    | .null => .ok null
    | found => .error (.wrongType found "unit")
  | other => .error (.unknownVariant other variants)

def decode : Decoder Cell
  | .str "Null" => .ok null
  | .str name =>
    if name ∈ variants then .error .contentMissing else .error (.unknownVariant name variants)
  | .obj [(variant, content)] => decodeContent variant content
  | .obj _ => .error (.wrongValue "map" "map with a single key")
  | found => .error (.wrongType found "string or map")

end Cell

end BulkTransfer
