import BulkTransfer.Tree.Writer
import BulkTransfer.Number.Reader
import BulkTransfer.Text.Printable
/-!
# Values taken from trees

A decoder turns a tree into a value of a domain type, or says what it found and what it expected.
A record is read by field name from an object, or by position from an array.
-/
namespace BulkTransfer

inductive DecodeError where
  | wrongType (found : Tree) (expected : String)
  | wrongValue (found : String) (expected : String)
  | wrongLength (length : Nat) (expected : String)
  | missingField (name : String)
  | unknownVariant (name : String) (variants : List String)
  | contentMissing
  | refused (reason : String)
  deriving Repr

namespace DecodeError

/-- What a message calls a value that was found. -/
def describe : Tree → String
  | .null => "null"
  | .bool b => "boolean `" ++ (if b then "true" else "false") ++ "`"
  | .num (.int n) => "integer `" ++ toString n ++ "`"
  | .num (.double x) => "floating point `" ++ DoubleStyle.json.write x ++ "`"
  | .str s => "string " ++ shownQuoted s
  | .arr _ => "sequence"
  | .obj _ => "map"

def quoted (name : String) : String := "`" ++ name ++ "`"

def oneOf : List String → String
  | [] => "there are no variants"
  | [a] => "expected " ++ quoted a
  | [a, b] => "expected " ++ quoted a ++ " or " ++ quoted b
  | names => "expected one of " ++ ", ".intercalate (names.map quoted)

def message : DecodeError → String
  | wrongType found expected => "invalid type: " ++ describe found ++ ", expected " ++ expected
  | wrongValue found expected => "invalid value: " ++ found ++ ", expected " ++ expected
  | wrongLength length expected =>
    "invalid length " ++ toString length ++ ", expected " ++ expected
  | missingField name => "missing field " ++ quoted name
  | unknownVariant name variants =>
    "unknown variant " ++ quoted name ++ ", " ++ oneOf variants
  | contentMissing => "invalid type: unit variant, expected newtype variant"
  | refused reason => reason

end DecodeError

abbrev Decoder (α : Type) := Tree → Except DecodeError α

namespace Decoder

/-- An integer of a range; `name` is what messages call the range. -/
def integer (range : IntegerRange) (name : String) : Decoder Int
  | .num (.int n) =>
    if range.contains n then .ok n
    else .error (.wrongValue (DecodeError.describe (.num (.int n))) name)
  | found => .error (.wrongType found name)

def long : Decoder Int := integer .signed64 "i64"

/-- A count or an index. -/
def count : Decoder Nat := fun tree => (integer .unsigned64 "usize" tree).map Int.toNat

def double : Decoder Double
  | .num (.int n) => .ok (Double.ofInt n)
  | .num (.double x) => .ok x
  | found => .error (.wrongType found "f64")

def bool : Decoder Bool
  | .bool b => .ok b
  | found => .error (.wrongType found "a boolean")

def string : Decoder String
  | .str s => .ok s
  | found => .error (.wrongType found "a string")

def list {α : Type} (item : Decoder α) : Decoder (List α)
  | .arr items => items.mapM item
  | found => .error (.wrongType found "a sequence")

/-- Null is nothing. -/
def optional {α : Type} (value : Decoder α) : Decoder (Option α)
  | .null => .ok none
  | tree => (value tree).map some

def entries : Decoder Entries
  | .obj entries => .ok entries
  | found => .error (.wrongType found "a map")

/-- Entries whose values are all of one type, in the order of their keys. -/
def table {α : Type} (value : Decoder α) : Decoder (List (String × α))
  | .obj entries => do
    let pairs ← entries.mapM fun (key, tree) => (value tree).map (key, ·)
    .ok (pairs.mergeSort (·.1 ≤ ·.1))
  | found => .error (.wrongType found "a map")

/-- One of a list of named alternatives without content: its name, or an object with its name as
the only key and null as its value. -/
def choice {α : Type} (alternatives : List (String × α)) : Decoder α
  | .str name => pick name
  | .obj [(name, content)] => do
    let value ← pick name
    match content with
    | .null => .ok value
    | found => .error (.wrongType found "unit")
  | .obj _ => .error (.wrongValue "map" "map with a single key")
  | found => .error (.wrongType found "string or map")
where
  pick (name : String) : Except DecodeError α :=
    match alternatives.lookup name with
    | some value => .ok value
    | none => .error (.unknownVariant name (alternatives.map Prod.fst))

end Decoder

/-- What happens when a record's field is left out: it is refused, it is taken as null in an object
but refused in an array, or it has a default everywhere. -/
inductive FieldAbsence where
  | refused
  | nullByName
  | defaulted
  deriving DecidableEq, Repr

structure RecordField where
  name : String
  absence : FieldAbsence
  accepts : Tree → Except DecodeError Unit

namespace RecordField

def ofDecoder {α : Type} (name : String) (absence : FieldAbsence) (decoder : Decoder α) :
    RecordField :=
  ⟨name, absence, fun tree => (decoder tree).map fun _ => ()⟩

def required {α : Type} (name : String) (decoder : Decoder α) : RecordField :=
  ofDecoder name .refused decoder

def nullable {α : Type} (name : String) (decoder : Decoder α) : RecordField :=
  ofDecoder name .nullByName decoder

def defaulted {α : Type} (name : String) (decoder : Decoder α) : RecordField :=
  ofDecoder name .defaulted decoder

end RecordField

namespace Decoder

def lengthText (name : String) (n : Nat) : String :=
  "struct " ++ name ++ " with " ++ toString n ++ (if n = 1 then " element" else " elements")

/-- The fields of a record that are present, each known to be accepted. In an object the first bad
entry wins, in the order of the object; then the first missing field, in the order of the record.
Entries with other names are ignored. -/
def record (name : String) (fields : List RecordField) : Decoder Entries
  | .obj entries => do
    for (key, value) in entries do
      match fields.find? (·.name == key) with
      | some field => field.accepts value
      | none => pure ()
    for field in fields do
      if field.absence = .refused ∧ (entries.lookup field.name).isNone then
        throw (.missingField field.name)
    .ok entries
  | .arr items => do
    for (field, i) in fields.zipIdx do
      match items[i]? with
      | some value => field.accepts value
      | none =>
        if field.absence ≠ .defaulted then
          throw (.wrongLength i (lengthText name fields.length))
    if items.length > fields.length then
      throw (.wrongLength items.length "fewer elements in array")
    .ok ((fields.map RecordField.name).zip items)
  | found => .error (.wrongType found ("struct " ++ name))

/-- The value of a field, or what stands for an absent one. -/
def field {α : Type} (fields : Entries) (name : String) (decoder : Decoder α)
    (absent : Except DecodeError α := .error (.missingField name)) : Except DecodeError α :=
  match fields.get? name with
  | some value => decoder value
  | none => absent

end Decoder

end BulkTransfer
