import BulkTransfer.Config.Document
/-!
# Shapes of tasks

A shape declares the settings that a task is made from. Loading a document checks every declared
setting and reports all violations together; only then is the task read.
-/
namespace BulkTransfer

inductive FieldKind where
  | bool
  | long
  | double
  | string
  | object
  | array
  | any
  deriving DecidableEq, Repr

namespace FieldKind

def all : List FieldKind := [bool, long, double, string, object, array, any]

def name : FieldKind → String
  | bool => "boolean"
  | long => "long"
  | double => "double"
  | string => "string"
  | object => "object"
  | array => "array"
  | any => "any"

def withArticle (kind : FieldKind) : String :=
  match kind with
  | object | array | any => "an " ++ kind.name
  | _ => "a " ++ kind.name

/-- The value as one of this kind, if it can be taken for one. -/
def coerce (kind : FieldKind) (value : Tree) : Option Tree :=
  match kind, value with
  | any, v => some v
  | bool, .bool b => some (.bool b)
  | bool, .str s =>
    match trimBlanks s with
    | "true" => some (.bool true)
    | "false" => some (.bool false)
    | _ => none
  | long, .num (.int n) => some (.num (.int n))
  | long, .str s =>
    match IntegerRange.signed64.read (trimBlanks s) with
    | .ok n => some (Tree.ofInt n)
    | .error _ => none
  | double, .num n => some (.num n)
  | double, .str s =>
    match Double.read (trimBlanks s) with
    | .ok x => if x.isFinite then some (.num (.double x)) else none
    | .error _ => none
  | string, .str s => some (.str s)
  | string, .num n => some (.str (Tree.numberText n))
  | string, .bool b => some (.str (Tree.leafText (.bool b)))
  | object, .obj entries => some (.obj entries)
  | array, .arr items => some (.arr items)
  | _, _ => none

end FieldKind

/-- One declared setting. A check also tries the value as the type it is read as later. -/
structure Setting where
  name : String
  kind : FieldKind
  isRequired : Bool
  check : Option (Tree → Except DecodeError Unit)

namespace Setting

def required (name : String) (kind : FieldKind) : Setting := ⟨name, kind, true, none⟩

def optional (name : String) (kind : FieldKind) : Setting := ⟨name, kind, false, none⟩

def checkedAs {α : Type} (s : Setting) (decoder : Decoder α) : Setting :=
  { s with check := some fun tree => (decoder tree).map fun _ => () }

/-- What is wrong with the setting in a document, and the document with the value in its kind. -/
def review (s : Setting) (source : Document) (coerced : Entries) : List String × Entries :=
  match source.find? s.name with
  | none | some .null =>
    (if s.isRequired then ["missing required field '" ++ s.name ++ "'"] else [], coerced)
  | some value =>
    match s.kind.coerce value with
    | none =>
      (["field '" ++ s.name ++ "' must be " ++ s.kind.withArticle ++ ", found " ++ value.kind],
        coerced)
    | some fitted =>
      let complaint := match s.check.map (· fitted) with
        | some (.error cause) => ["field '" ++ s.name ++ "': " ++ cause.message]
        | _ => []
      (complaint, coerced.put s.name fitted)

end Setting

/-- How a task is declared, read and frozen. -/
structure Shape (α : Type) where
  settings : List Setting
  decode : Decoder α

namespace Document

def reviewAll (source : Document) (settings : List Setting) : List String × Entries :=
  settings.foldl
    (fun (violations, coerced) setting =>
      let (found, coerced) := setting.review source coerced
      (violations ++ found, coerced))
    ([], source.entries)

/-- Checks a document against a shape and reads the task. -/
def load {α : Type} (source : Document) (shape : Shape α) : Except ConfigError α :=
  let (violations, coerced) := source.reviewAll shape.settings
  if violations.isEmpty then
    match shape.decode (.obj coerced) with
    | .ok task => .ok task
    | .error cause => .error (.invalid [cause.message])
  else .error (.invalid violations)

/-- Reads a task that was frozen earlier. -/
def loadTask {α : Type} (task : Document) (decoder : Decoder α) : Except ConfigError α :=
  match decoder task.toTree with
  | .ok a => .ok a
  | .error cause => .error (.json (.mismatched cause))

end Document

end BulkTransfer
