import BulkTransfer.Page.Cell
import BulkTransfer.Page.Error
import BulkTransfer.Page.Layout
import BulkTransfer.Page.Pool
/-!
# Writing pages

A writer stages the cells of one record at a time and appends finished records to the page it is
filling. A page is handed out when the next record does not fit, or when the writer is flushed. A
record larger than a page has a page of its own.
-/
namespace BulkTransfer

/-- Encoded records in a buffer. -/
structure Page where
  buffer : Buffer
  bytes : Array UInt8
  recordCount : Nat
  deriving Repr, Inhabited

namespace Page

def byteSize (p : Page) : Nat := p.bytes.size

end Page

/-- Places in a page are stored in four bytes. -/
def greatestOffset : Nat := 0xFFFFFFFF

namespace Cell

/-- The bytes of a cell that stand behind the slots. -/
def content : Cell → Bytes
  | string s => Utf8.encode s
  | json tree => Utf8.encode tree.compact
  | _ => []

end Cell

/-- A value that is staged for the next record. Strings and JSON texts are ranges of the scratch
bytes of the writer. -/
inductive Staged where
  | null
  | boolean (value : Bool)
  | long (value : Int64)
  | double (value : Double)
  | timestamp (value : Instant)
  | content (start length : Nat)
  deriving Repr, Inhabited

namespace Staged

def isNull : Staged → Bool
  | null => true
  | _ => false

def contentSize : Staged → Nat
  | content _ length => length
  | _ => 0

/-- The bytes of the content, which are somewhere in the scratch bytes. -/
def contentIn (scratch : Array UInt8) : Staged → Bytes
  | content start length => (scratch.extract start (start + length)).toList
  | _ => []

/-- The slot of a value in a column of the given width; the content, if any, goes to `place` in the
page. A null keeps its width. -/
def slot (width place : Nat) : Staged → List UInt8
  | null => List.replicate width 0
  | boolean b => [if b then 1 else 0]
  | long n => littleEndian 8 n.toUInt64.toNat
  | double x => littleEndian 8 x.bits.toNat
  | timestamp i =>
    littleEndian 8 (Int64.ofInt i.seconds).toUInt64.toNat ++ littleEndian 4 i.nanos
  | content _ length => littleEndian 4 place ++ littleEndian 4 length

end Staged

/-- Stages a cell behind the scratch bytes that are there. What was staged before stays in them. -/
def Cell.stage (scratch : Array UInt8) : Cell → Staged × Array UInt8
  | null => (.null, scratch)
  | boolean b => (.boolean b, scratch)
  | long n => (.long n, scratch)
  | double x => (.double x, scratch)
  | timestamp i => (.timestamp i, scratch)
  | cell => (.content scratch.size cell.content.length, scratch ++ cell.content)

namespace Schema

/-- The slots of a record; contents follow each other from `place`. -/
def slots : List Nat → List Staged → Nat → List UInt8
  | width :: widths, value :: values, place =>
    value.slot width place ++ slots widths values (place + value.contentSize)
  | _, _, _ => []

def recordSize (s : Schema) (values : List Staged) : Nat :=
  values.foldl (fun size v => size + v.contentSize) s.fixedSize

/-- The bytes of a record that starts at `base` in its page. -/
def encodeRecord (s : Schema) (values : List Staged) (scratch : Array UInt8) (base : Nat) :
    List UInt8 :=
  littleEndian 4 (s.recordSize values) ++ packFlags (values.map Staged.isNull) ++
    slots s.slotWidths values (base + s.fixedSize) ++ values.flatMap (·.contentIn scratch)

end Schema

structure PageWriter where
  schema : Schema
  current : Option Buffer
  bytes : Array UInt8
  recordCount : Nat
  staged : List Staged
  scratch : Array UInt8
  deriving Inhabited

namespace PageWriter

def blank (schema : Schema) : List Staged := List.replicate schema.size .null

def ofSchema (schema : Schema) : PageWriter := ⟨schema, none, #[], 0, blank schema, #[]⟩

/-- Stages a cell. Null fits every column; a refused cell changes nothing. -/
def set (w : PageWriter) (index : Nat) (cell : Cell) : Except PageError PageWriter := do
  match cell.type? with
  | some type => w.schema.expectType index type
  | none =>
    if index ≥ w.schema.size then throw (.columnOutOfRange index w.schema.size)
  let (value, scratch) := cell.stage w.scratch
  return { w with staged := w.staged.set index value, scratch }

def takePage (w : PageWriter) : Option Page × PageWriter :=
  match w.current with
  | none => (none, w)
  | some buffer =>
    (some ⟨buffer, w.bytes, w.recordCount⟩,
      { w with current := none, bytes := #[], recordCount := 0 })

/-- Appends the staged record. Hands out the page before it when the record did not fit. -/
def add (w : PageWriter) (pool : Pool) : Except PageError (Option Page) × PageWriter × Pool :=
  let size := w.schema.recordSize w.staged
  if size > greatestOffset then (.error (.recordTooLarge size), w, pool)
  else
    let isFull := w.current.isSome && w.recordCount > 0 && w.bytes.size + size > pool.pageSize
    let (emitted, w) := if isFull then w.takePage else (none, w)
    let (buffer, pool) := match w.current with
      | some buffer => (buffer, pool)
      | none => pool.acquire (if size > pool.pageSize then size else pool.pageSize)
    let w := { w with current := some buffer }
    if w.bytes.size + size > greatestOffset then (.error (.recordTooLarge size), w, pool)
    else
      let record := w.schema.encodeRecord w.staged w.scratch w.bytes.size
      (.ok emitted,
        { w with
          bytes := w.bytes ++ record
          recordCount := w.recordCount + 1
          staged := blank w.schema
          scratch := #[] },
        pool)

/-- Hands out the current page if it holds a record; an unused buffer goes back. -/
def flush (w : PageWriter) (pool : Pool) : Option Page × PageWriter × Pool :=
  if w.recordCount = 0 then
    (none, { w with current := none, bytes := #[] }, w.current.elim pool pool.release)
  else
    let (page, w) := w.takePage
    (page, w, pool)

/-- Gives up the writer and its buffer. -/
def drop (w : PageWriter) (pool : Pool) : Pool := w.current.elim pool pool.release

end PageWriter

end BulkTransfer
