import BulkTransfer.Config.Error
import BulkTransfer.Text.Blank
/-!
# Documents

A document is an ordered table of settings. User configs, the tasks frozen from them, and the diffs
and reports that tasks hand back are all documents. Values are read by type, with scalars converted
where that loses nothing, and documents are merged deeply.
-/
namespace BulkTransfer

structure Document where
  entries : Entries
  deriving Repr, Inhabited

/-- What the user asked for. -/
abbrev Config := Document

/-- A config made definite by a plugin's transaction. -/
abbrev Task := Document

/-- What a committed task, or a committed transaction, has to say. -/
abbrev Report := Document

/-- A type of values that can be read from a document, with its name in messages. -/
structure ValueType (α : Type) where
  name : String
  decode : Decoder α

namespace ValueType

def long : ValueType Int := ⟨"i64", Decoder.long⟩
def count : ValueType Nat := ⟨"usize", Decoder.count⟩
def double : ValueType Double := ⟨"f64", Decoder.double⟩
def bool : ValueType Bool := ⟨"bool", Decoder.bool⟩
def string : ValueType String := ⟨"String", Decoder.string⟩
def strings : ValueType (List String) := ⟨"String>", Decoder.list Decoder.string⟩

end ValueType

namespace Document

def empty : Document := ⟨[]⟩

def toTree (d : Document) : Tree := .obj d.entries

/-- The text of a document on one line. -/
def text (d : Document) : String := d.toTree.compact

/-- Null is the empty document; any other value but an object is refused. -/
def ofTree : Tree → Except ConfigError Document
  | .obj entries => .ok ⟨entries⟩
  | .null => .ok empty
  | other => .error (.typeMismatch "<root>" "object" other.kind)

def ofJson (text : String) : Except ConfigError Document :=
  match Tree.read text with
  | .ok tree => ofTree tree
  | .error cause => .error (.json (.malformed cause))

/-- Documents inside other values: null is the empty one. -/
def decode : Decoder Document
  | .null => .ok empty
  | tree => (Decoder.entries tree).map Document.mk

def isEmpty (d : Document) : Bool := d.entries.isEmpty

def find? (d : Document) (key : String) : Option Tree := d.entries.get? key

def contains (d : Document) (key : String) : Bool := (d.find? key).isSome

def keys (d : Document) : List String := d.entries.keys

def set (d : Document) (key : String) (value : Tree) : Document := ⟨d.entries.put key value⟩

def setNested (d : Document) (key : String) (nested : Document) : Document :=
  d.set key nested.toTree

def remove (d : Document) (key : String) : Document := ⟨d.entries.erase key⟩

/-- The values that a scalar may also be taken for, in the order in which they are tried. -/
def scalarReadings : Tree → List Tree
  | .str s =>
    let s := trimBlanks s
    let long := match IntegerRange.signed64.read s with
      | .ok n => [Tree.ofInt n]
      | .error _ => []
    let double := match Double.read s with
      | .ok x => if x.isFinite then [Tree.num (.double x)] else []
      | .error _ => []
    let bool := match s with
      | "true" => [Tree.bool true]
      | "false" => [Tree.bool false]
      | _ => []
    long ++ double ++ bool
  | .num n => [.str (Tree.numberText n)]
  | .bool b => [.str (Tree.leafText (.bool b))]
  | _ => []

/-- The first of some values that a type accepts. -/
def firstReading {α : Type} (type : ValueType α) : List Tree → Option α
  | [] => none
  | value :: rest =>
    match type.decode value with
    | .ok a => some a
    | .error _ => firstReading type rest

/-- Reads a key. An absent key and a null both give nothing. -/
def get {α : Type} (d : Document) (key : String) (type : ValueType α) :
    Except ConfigError (Option α) :=
  match d.find? key with
  | none | some .null => .ok none
  | some value =>
    match firstReading type (value :: scalarReadings value) with
    | some a => .ok (some a)
    | none => .error (.typeMismatch key type.name value.kind)

def getOr {α : Type} (d : Document) (key : String) (type : ValueType α) (default : α) :
    Except ConfigError α := do
  return (← d.get key type).getD default

def require {α : Type} (d : Document) (key : String) (type : ValueType α) :
    Except ConfigError α := do
  match ← d.get key type with
  | some a => .ok a
  | none => .error (.missing key)

/-- The object at a key, if there is one. -/
def nested (d : Document) (key : String) : Except ConfigError (Option Document) :=
  match d.find? key with
  | none | some .null => .ok none
  | some (.obj entries) => .ok (some ⟨entries⟩)
  | some _ => .error (.notAnObject key)

def nestedOrEmpty (d : Document) (key : String) : Except ConfigError Document := do
  return (← d.nested key).getD empty

def itemKey (key : String) (i : Nat) : String := key ++ "[" ++ toString i ++ "]"

/-- The list of objects at a key, empty when the key is absent. -/
def nestedList (d : Document) (key : String) : Except ConfigError (List Document) :=
  match d.find? key with
  | none | some .null => .ok []
  | some (.arr items) =>
    items.zipIdx.mapM fun (item, i) =>
      match item with
      | .obj entries => .ok ⟨entries⟩
      | _ => .error (.notAnObject (itemKey key i))
  | some other => .error (.typeMismatch key "array" other.kind)

end Document

mutual

/-- The value of `top` laid on `base`: two objects are merged, anything else is replaced. -/
def Tree.overlay (base top : Tree) : Tree :=
  match base, top with
  | .obj bs, .obj os => .obj (Entries.overlay bs os)
  | _, other => other

/-- The entries of `top` laid on `base` in turn; keys of `base` keep their places. -/
def Entries.overlay (base : List (String × Tree)) : List (String × Tree) → List (String × Tree)
  | [] => base
  | (key, value) :: rest =>
    let laid := match Entries.get? base key with
      | some existing => Tree.overlay existing value
      | none => value
    Entries.overlay (Entries.put base key laid) rest

end

namespace Document

/-- The deep merge, in which `top` wins. -/
def merge (base top : Document) : Document := ⟨Entries.overlay base.entries top.entries⟩

/-- Reports in task order merged so that the lowest task wins. -/
def mergeAll (reports : List Document) : Document :=
  reports.reverse.foldl merge empty

def same (a b : Document) : Bool := a.toTree.same b.toTree

end Document

end BulkTransfer
