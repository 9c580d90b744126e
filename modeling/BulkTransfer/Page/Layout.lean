import BulkTransfer.Schema.Basic
/-!
# Record layout

A record is its length in four bytes, a bitmap with a bit for each null, one slot for each column
and the bytes of its strings and JSON texts. Slots have fixed places, counted from the start of the
record.
-/
namespace BulkTransfer

/-- The bytes of the record length. -/
def recordHeaderSize : Nat := 4

namespace Schema

def bitmapSize (s : Schema) : Nat := (s.size + 7) / 8

def slotWidths (s : Schema) : List Nat := s.columns.map fun c => c.type.slotSize

/-- Where the slots start. -/
def slotsStart (s : Schema) : Nat := recordHeaderSize + s.bitmapSize

/-- Where the slot of a column starts. -/
def slotOffset? (s : Schema) (index : Nat) : Option Nat :=
  if index < s.size then
    some ((s.slotWidths.take index).foldl (· + ·) s.slotsStart)
  else none

/-- The length of a record without strings and JSON texts. -/
def fixedSize (s : Schema) : Nat := s.slotWidths.foldl (· + ·) s.slotsStart

end Schema

/-- A number in little-endian bytes; higher bytes are cut off. -/
def littleEndian : Nat → Nat → List UInt8
  | 0, _ => []
  | width + 1, n => UInt8.ofNat (n % 256) :: littleEndian width (n / 256)

def ofLittleEndian : List UInt8 → Nat
  | [] => 0
  | b :: rest => b.toNat + 256 * ofLittleEndian rest

/-- Flags as the bits of a number, the first flag in the lowest bit. -/
def flagsValue : List Bool → Nat
  | [] => 0
  | flag :: rest => flag.toNat + 2 * flagsValue rest

/-- Eight flags to a byte. -/
def packFlags : List Bool → List UInt8
  | [] => []
  | flag :: rest =>
    UInt8.ofNat (flagsValue (flag :: rest.take 7)) :: packFlags (rest.drop 7)
termination_by flags => flags.length
decreasing_by simp only [List.length_cons, List.length_drop]; omega

end BulkTransfer
