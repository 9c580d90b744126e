import BulkTransfer.Tree.Basic
import BulkTransfer.Yaml.Node
import BulkTransfer.Yaml.Scalar
/-!
# Trees read from YAML

A form says what is wanted at each place of a document, because a scalar without quotes means what
the reader wants it to mean: `12345` is a text where a text is wanted and a number where anything
is. Aliases are replaced by what they stand for, within a limit.
-/
namespace BulkTransfer.Yaml

inductive Form where
  | any
  | text
  | count
  | flag
  /-- One of several words. -/
  | word
  /-- An object of anything; null stands for none. -/
  | object
  | list (item : Form)
  | record (fields : List (String × Form))

/-- How deeply lists and maps may be nested. -/
def depthLimit : Nat := 128

/-- How often aliases may be followed, for each mark of a document. -/
def aliasesPerMark : Nat := 100

/-- Reading counts down the aliases that may still be followed. -/
abbrev FormReading := StateT Nat Lexing

/-- The node itself, or what an alias stands for. -/
def follow (d : LinkedDocument) (n : Node Nat) : FormReading (Node Nat) :=
  match n with
  | .aliasOf number => do
    match ← get with
    | 0 => throw .aliasesTooMany
    | left + 1 =>
      set left
      match d.targets.lookup number with
      | some target => return target
      | none => throw .unknownAlias
  | other => return other

def coreTag (name : String) : Option String := some ("tag:yaml.org,2002:" ++ name)

def isOwnTag (tag : Option String) : Bool :=
  match tag with
  | some t => t.toList.head? = some '!'
  | none => false

def plainTree (text : String) : Lexing Tree :=
  match plain text with
  | .null => .ok .null
  | .bool b => .ok (.bool b)
  | .int n =>
    if IntegerRange.unsigned64.contains n || IntegerRange.signed64.contains n then
      .ok (.ofInt n)
    else .error .integerOutOfRange
  | .double x => .ok (if x.isFinite then .num (.double x) else .null)
  | .text => .ok (.str text)

/-- A scalar where anything is wanted. -/
def scalarTree (tag : Option String) (style : ScalarStyle) (text : String) : Lexing Tree :=
  if isOwnTag tag then .error .taggedValue
  else if tag = coreTag "bool" then
    (bool? text).elim (.error .tagMismatch) fun b => .ok (.bool b)
  else if tag = coreTag "int" then
    match int? text.toList with
    | some _ => plainTree text
    | none => .error .tagMismatch
  else if tag = coreTag "float" then
    match double? text.toList with
    | some x => .ok (if x.isFinite then .num (.double x) else .null)
    | none => .error .tagMismatch
  else if tag = coreTag "null" then
    if text ∈ nullWords then .ok .null else .error .tagMismatch
  else if tag.isNone && style = .plain then plainTree text
  else .ok (.str text)

/-- Whether a scalar may stand for a value of a core type. -/
def isLiteralOf (name : String) (tag : Option String) (style : ScalarStyle) : Bool :=
  style = .plain || (style = .literal && tag = coreTag name)

def isEmptyPlain (style : ScalarStyle) (text : String) : Bool :=
  style = .plain && text.isEmpty

def isNullScalar (tag : Option String) (style : ScalarStyle) (text : String) :
    Lexing Bool :=
  if style ≠ .plain then .ok false
  else if tag = coreTag "null" then
    if text ∈ nullWords then .ok true else .error .tagMismatch
  else .ok (tag.isNone && (text.isEmpty || text ∈ nullWords))

/-- A scalar where a value of some form is wanted. -/
def scalarAs (form : Form) (tag : Option String) (style : ScalarStyle) (text : String) :
    Lexing Tree :=
  match form with
  | .any => scalarTree tag style text
  | .text => .ok (.str text)
  | .count =>
    if isLiteralOf "int" tag style then
      match unsigned? .unsigned64 text.toList with
      | some n => .ok (.ofInt n)
      | none => .error (.wrongForm "a count")
    else .error (.wrongForm "a count")
  | .flag =>
    match isLiteralOf "bool" tag style, bool? text with
    | true, some b => .ok (.bool b)
    | _, _ => .error (.wrongForm "a boolean")
  | .word =>
    match isOwnTag tag, tag with
    | true, some t =>
      if text.isEmpty || text ∈ nullWords then .ok (.str (t.drop 1).toString)
      else .error (.wrongForm "a word")
    | _, _ => .ok (.str text)
  | .object => do
    if ← isNullScalar tag style text then return .null
    if isEmptyPlain style text then return .obj []
    throw (.wrongForm "a map")
  | .list _ =>
    if isEmptyPlain style text then .ok (.arr []) else .error (.wrongForm "a sequence")
  | .record _ =>
    if isEmptyPlain style text then .ok (.obj []) else .error (.wrongForm "a map")

def keyText (d : LinkedDocument) (n : Node Nat) : FormReading String := do
  match ← follow d n with
  | .scalar _ _ text => return text
  | _ => throw .keyNotScalar

def itemForm? (form : Form) (p : Properties Nat) : Lexing Form :=
  match form with
  | .any => if isOwnTag p.tag then .error .taggedValue else .ok .any
  | .list item => .ok item
  | _ => .error (.wrongForm "no sequence")

/-- The forms of the values of a map; a value without a form is passed over. -/
def fieldForm? (form : Form) (p : Properties Nat) : Lexing (String → Option Form) :=
  match form with
  | .any => if isOwnTag p.tag then .error .taggedValue else .ok fun _ => some .any
  | .object => .ok fun _ => some .any
  | .record fields => .ok (List.lookup · fields)
  | _ => .error (.wrongForm "no map")

def isRecord : Form → Bool
  | .record _ => true
  | _ => false

/-- Reads a node in a form; `depth` more containers may be nested. In a record a field must not
occur twice, elsewhere the last one counts. -/
def readNode (d : LinkedDocument) : Nat → Form → Node Nat → FormReading Tree
  | depth, form, n => do
    match ← follow d n with
    | .scalar p style text => scalarAs form p.tag style text
    | .list p items =>
      let item ← itemForm? form p
      match depth with
      | 0 => throw .nestedTooDeep
      | depth + 1 => return .arr (← items.mapM (readNode d depth item))
    | .map p pairs =>
      let fields ← fieldForm? form p
      match depth with
      | 0 => throw .nestedTooDeep
      | depth + 1 =>
        let entries ← pairs.foldlM
          (fun (entries : Entries) (key, value) => do
            let key ← keyText d key
            match fields key with
            | none => return entries
            | some field =>
              if isRecord form && (entries.get? key).isSome then throw (.duplicateField key)
              return entries.put key (← readNode d depth field value))
          []
        return .obj entries
    | .aliasOf _ => throw .unknownAlias

end BulkTransfer.Yaml

namespace BulkTransfer

/-- The tree of a YAML text, read in a form. -/
def Tree.ofYaml (form : Yaml.Form) (text : String) : Except YamlFault Tree := do
  let d ← Yaml.LinkedDocument.ofText text
  let (tree, _) ← (Yaml.readNode d Yaml.depthLimit form d.root).run
    (d.root.size * Yaml.aliasesPerMark)
  return tree

end BulkTransfer
