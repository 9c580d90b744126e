import BulkTransfer.Config.Shape
/-!
# Shapes for rehearsals

Shapes that show every kind of setting at work. What they read is written back as a tree, with the
settings in the order of their declaration.
-/
namespace BulkTransfer.Rehearsal

/-- A setting of a record: its name, whether it must be there, and how it is read and written. -/
structure PlainField where
  name : String
  isRequired : Bool
  read : Decoder Tree

namespace PlainField

def required {α : Type} (name : String) (decoder : Decoder α) (write : α → Tree) : PlainField :=
  ⟨name, true, fun tree => (decoder tree).map write⟩

def optional {α : Type} (name : String) (decoder : Decoder α) (write : α → Tree) : PlainField :=
  ⟨name, false, fun tree => (Decoder.optional decoder tree).map fun a => a.elim .null write⟩

def toField (f : PlainField) : RecordField :=
  if f.isRequired then .required f.name f.read else .nullable f.name f.read

end PlainField

def plainRecord (name : String) (fields : List PlainField) : Decoder Tree := fun tree => do
  let found ← Decoder.record name (fields.map PlainField.toField) tree
  let pairs ← fields.mapM fun f => do
    return (f.name, ← Decoder.field found f.name f.read (.ok .null))
  return .obj pairs

/-- Texts and an optional number. -/
def sample : Shape Tree where
  settings := [.required "path_prefix" .string, .optional "max_files" .long,
    .required "delimiter" .string]
  decode := plainRecord "Sample" [.required "path_prefix" Decoder.string .str,
    .optional "max_files" Decoder.long .ofInt, .required "delimiter" Decoder.string .str]

private def mode : Decoder String := Decoder.choice [("append", "append"), ("replace", "replace")]

private def target : Decoder Tree :=
  plainRecord "Target" [.required "name" Decoder.string .str, .required "width" Decoder.long .ofInt]

/-- Settings that are checked as the types they are read as. -/
def checked : Shape Tree where
  settings := [.required "table" .string, (Setting.required "mode" .string).checkedAs mode,
    (Setting.required "targets" .array).checkedAs (Decoder.list target)]
  decode := plainRecord "Typed" [.required "table" Decoder.string .str,
    .required "mode" mode .str, .required "targets" (Decoder.list target) .arr]

/-- One setting of each kind. -/
def kinds : Shape Tree where
  settings := [.required "b" .bool, .required "l" .long, .required "d" .double,
    .required "s" .string, .required "o" .object, .required "a" .array, .required "x" .any,
    .optional "u" .long]
  decode := plainRecord "Kinds" [.required "b" Decoder.bool .bool,
    .required "l" Decoder.long .ofInt, .required "d" Decoder.double fun x => .num (.double x),
    .required "s" Decoder.string .str, .required "o" Decoder.entries .obj,
    .required "a" (Decoder.list .ok) .arr, .required "x" Except.ok id,
    .optional "u" (Decoder.integer .unsigned8 "u8") .ofInt]

/-- The shapes by their names. -/
def shapes : List (String × Shape Tree) :=
  [("sample", sample), ("typed", checked), ("kinds", kinds)]

end BulkTransfer.Rehearsal
