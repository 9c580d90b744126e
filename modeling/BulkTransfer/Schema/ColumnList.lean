import BulkTransfer.Schema.Basic
/-!
# Column lists

The columns that a config asks for: a name, a type, and for timestamps a format.
-/
namespace BulkTransfer

structure ColumnChoice where
  name : String
  type : ColumnType
  format : Option String
  deriving DecidableEq, Repr

abbrev ColumnList := List ColumnChoice

namespace ColumnChoice

def format? : Decoder (Option String) := Decoder.optional Decoder.string

def fields : List RecordField :=
  [.required "name" Decoder.string, .required "type" ColumnType.decode,
    .defaulted "format" format?]

def decode : Decoder ColumnChoice := fun tree => do
  let found ← Decoder.record "ColumnConfig" fields tree
  return ⟨← Decoder.field found "name" Decoder.string,
    ← Decoder.field found "type" ColumnType.decode,
    ← Decoder.field found "format" format? (.ok none)⟩

/-- A missing format is left out. -/
def toTree (c : ColumnChoice) : Tree :=
  let format := match c.format with
    | some format => [("format", Tree.str format)]
    | none => []
  .obj ([("name", .str c.name), ("type", c.type.toTree)] ++ format)

end ColumnChoice

namespace ColumnList

def decode : Decoder ColumnList := Decoder.list ColumnChoice.decode

def toTree (l : ColumnList) : Tree := .arr (l.map ColumnChoice.toTree)

def toSchema (l : ColumnList) : Except SchemaError Schema :=
  Schema.ofNames (l.map fun c => (c.name, c.type))

def formatOf (l : ColumnList) (index : Nat) : Option String := l[index]?.bind ColumnChoice.format

end ColumnList

end BulkTransfer
