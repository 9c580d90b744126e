import BulkTransfer.Schema.ColumnType
/-!
# Schemas

The ordered columns shared by every stage of a transfer. Indices count from zero and names are
distinct: a schema carries the proof, and a list of columns that breaks the rule is refused at the
first offending column, the index being looked at before the name.
-/
namespace BulkTransfer

structure Column where
  index : Nat
  name : String
  type : ColumnType
  deriving DecidableEq, Repr, Inhabited

inductive SchemaError where
  | duplicateColumn (name : String)
  | nonDenseIndex (expected found : Nat)
  | unknownColumn (name : String)
  deriving DecidableEq, Repr

def SchemaError.message : SchemaError → String
  | duplicateColumn name => "Duplicate column name: " ++ name
  | nonDenseIndex expected found =>
    "Column indices must be dense: expected index " ++ toString expected ++ ", found " ++
      toString found
  | unknownColumn name => "Unknown column: " ++ name

namespace Column

def toTree (c : Column) : Tree :=
  .obj [("index", .ofNat c.index), ("name", .str c.name), ("type", c.type.toTree)]

def fields : List RecordField :=
  [.required "index" Decoder.count, .required "name" Decoder.string,
    .required "type" ColumnType.decode]

def decode : Decoder Column := fun tree => do
  let found ← Decoder.record "Column" fields tree
  return ⟨← Decoder.field found "index" Decoder.count, ← Decoder.field found "name" Decoder.string,
    ← Decoder.field found "type" ColumnType.decode⟩

end Column

/-- The first offence in a list of columns that starts at index `expected` behind the names
`seen`. -/
def columnFault (expected : Nat) (seen : List String) : List Column → Option SchemaError
  | [] => none
  | c :: rest =>
    if c.index ≠ expected then some (.nonDenseIndex expected c.index)
    else if c.name ∈ seen then some (.duplicateColumn c.name)
    else columnFault (expected + 1) (c.name :: seen) rest

structure Schema where
  columns : List Column
  sound : columnFault 0 [] columns = none
  deriving DecidableEq

namespace Schema

instance : Inhabited Schema := ⟨⟨[], rfl⟩⟩

def empty : Schema := ⟨[], rfl⟩

def make (columns : List Column) : Except SchemaError Schema :=
  match h : columnFault 0 [] columns with
  | none => .ok ⟨columns, h⟩
  | some fault => .error fault

/-- The schema of these names and types, in order. -/
def ofNames (columns : List (String × ColumnType)) : Except SchemaError Schema :=
  make (columns.zipIdx.map fun ((name, type), i) => ⟨i, name, type⟩)

def size (s : Schema) : Nat := s.columns.length

def column? (s : Schema) (index : Nat) : Option Column := s.columns[index]?

def typeOf? (s : Schema) (index : Nat) : Option ColumnType := (s.column? index).map Column.type

def lookup? (s : Schema) (name : String) : Option Column := s.columns.find? (·.name = name)

/-- Every column renamed at once; names without an entry stay. -/
def rename (s : Schema) (newName : String → Option String) : Except SchemaError Schema :=
  make (s.columns.map fun c => { c with name := (newName c.name).getD c.name })

/-- Visits the columns in order until one is refused. -/
def visit {ε : Type} (s : Schema) (visitor : Column → Except ε Unit) : Except ε Unit :=
  s.columns.forM visitor

def toTree (s : Schema) : Tree := .arr (s.columns.map Column.toTree)

def decode : Decoder Schema := fun tree => do
  match make (← Decoder.list Column.decode tree) with
  | .ok schema => .ok schema
  | .error fault => .error (.refused fault.message)

end Schema

end BulkTransfer
