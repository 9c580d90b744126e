import BulkTransfer.Page.Writer
/-!
# Reading pages

Records are found one after the other by their lengths; a column is read through its slot. Every
read is checked against the bounds of the page, so that a page read with the wrong schema is
corrupted and never more than that.
-/
namespace BulkTransfer

/-- The bytes from `start` on, if there are that many. -/
def slice? (data : Array UInt8) (start length : Nat) : Option (List UInt8) :=
  if start + length ≤ data.size then some (data.extract start (start + length)).toList else none

/-- A record of a page, read with a schema. -/
structure Record where
  data : Array UInt8
  start : Nat
  schema : Schema

namespace Page

/-- The places of the records from `start` on, at most `remaining` of them. -/
def starts (data : Array UInt8) : Nat → Nat → List Nat
  | 0, _ => []
  | remaining + 1, start =>
    match slice? data start recordHeaderSize with
    | none => []
    | some header =>
      let size := ofLittleEndian header
      if size < recordHeaderSize ∨ start + size > data.size then []
      else start :: starts data remaining (start + size)

def records (p : Page) (schema : Schema) : List Record :=
  (starts p.bytes p.recordCount 0).map fun start => ⟨p.bytes, start, schema⟩

end Page

namespace Record

def isNull (r : Record) (column : Nat) : Bool :=
  match r.data[r.start + recordHeaderSize + column / 8]? with
  | some byte => byte.toNat.testBit (column % 8)
  | none => false

/-- The slot of a column of the given type, or nothing for a null. -/
def slot? (r : Record) (column : Nat) (type : ColumnType) :
    Except PageError (Option (List UInt8)) := do
  r.schema.expectType column type
  match r.schema.slotOffset? column with
  | none => throw (.columnOutOfRange column r.schema.size)
  | some offset =>
    if r.isNull column then return none
    let start := r.start + offset
    match slice? r.data start type.slotSize with
    | some bytes => return some bytes
    | none => throw (.corrupted (.slotOutOfBounds start))

def content? (r : Record) (column : Nat) (type : ColumnType) :
    Except PageError (Option (List UInt8)) := do
  match ← r.slot? column type with
  | none => return none
  | some slot =>
    let start := ofLittleEndian (slot.take 4)
    let length := ofLittleEndian (slot.drop 4)
    match slice? r.data start length with
    | some bytes => return some bytes
    | none => throw (.corrupted (.contentOutOfBounds start length))

def utf8 (bytes : List UInt8) : Except PageError String :=
  match Utf8.decode bytes with
  | .ok text => .ok text
  | .error fault => .error (.corrupted (.notUtf8 fault))

def int64 (bytes : List UInt8) : Int64 :=
  (UInt64.ofNat (ofLittleEndian bytes)).toInt64

def boolean? (r : Record) (column : Nat) : Except PageError (Option Bool) := do
  return (← r.slot? column .boolean).map fun slot => ofLittleEndian slot ≠ 0

def long? (r : Record) (column : Nat) : Except PageError (Option Int64) := do
  return (← r.slot? column .long).map int64

def double? (r : Record) (column : Nat) : Except PageError (Option Double) := do
  return (← r.slot? column .double).map fun slot => ⟨UInt64.ofNat (ofLittleEndian slot)⟩

def timestamp? (r : Record) (column : Nat) : Except PageError (Option Instant) := do
  match ← r.slot? column .timestamp with
  | none => return none
  | some slot =>
    let seconds := (int64 (slot.take 8)).toInt
    match Instant.ofParts? seconds (ofLittleEndian (slot.drop 8)) with
    | some i => return some i
    | none => throw (.timestampOutOfRange seconds)

def string? (r : Record) (column : Nat) : Except PageError (Option String) := do
  match ← r.content? column .string with
  | none => return none
  | some bytes => return some (← utf8 bytes)

/-- The JSON text of a column as it was stored. -/
def jsonText? (r : Record) (column : Nat) : Except PageError (Option String) := do
  match ← r.content? column .json with
  | none => return none
  | some bytes => return some (← utf8 bytes)

def json? (r : Record) (column : Nat) : Except PageError (Option Tree) := do
  match ← r.content? column .json with
  | none => return none
  | some bytes =>
    match Tree.readBytes bytes with
    | .ok tree => return some tree
    | .error cause => throw (.json cause)

def cellOf {α : Type} (ofValue : α → Cell) (value : Option α) : Cell :=
  (value.map ofValue).getD .null

/-- The cell of a column by its own type. -/
def cell (r : Record) (column : Nat) : Except PageError Cell := do
  match r.schema.typeOf? column with
  | none => throw (.columnOutOfRange column r.schema.size)
  | some .boolean => return cellOf .boolean (← r.boolean? column)
  | some .long => return cellOf .long (← r.long? column)
  | some .double => return cellOf .double (← r.double? column)
  | some .string => return cellOf .string (← r.string? column)
  | some .timestamp => return cellOf .timestamp (← r.timestamp? column)
  | some .json => return cellOf .json (← r.json? column)

def cells (r : Record) : Except PageError (List Cell) :=
  (List.range r.schema.size).mapM r.cell

end Record

namespace Page

/-- The cells of all records. -/
def rows (p : Page) (schema : Schema) : Except PageError (List (List Cell)) :=
  (p.records schema).mapM Record.cells

end Page

end BulkTransfer
