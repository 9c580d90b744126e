import BulkTransfer.Proofs.Page.Layout
import BulkTransfer.Proofs.Text.Utf8
import Mathlib.Data.List.Forall2
/-!
# Rows in a page

The bytes of a row, said from its cells alone, and the law that a record over those bytes gives the
cells back: null, or the value of the column, bit by bit. The place of a slot depends on the widths
before it, the place of a content on the contents before it, and both are absolute in the page.
-/
namespace BulkTransfer

namespace Cell

/-- A cell fits a column when it is null or of the column's type. -/
def FitsType (cell : Cell) (type : ColumnType) : Prop := ∀ t, cell.type? = some t → t = type

/-- The slot of a cell in a column of the given width, with its content at `place`. -/
def slot (width place : Nat) : Cell → List UInt8
  | null => List.replicate width 0
  | boolean b => [if b then 1 else 0]
  | long n => littleEndian 8 n.toUInt64.toNat
  | double x => littleEndian 8 x.bits.toNat
  | timestamp i =>
    littleEndian 8 (Int64.ofInt i.seconds).toUInt64.toNat ++ littleEndian 4 i.nanos
  | cell => littleEndian 4 place ++ littleEndian 4 cell.content.length

theorem slot_length {cell : Cell} {type : ColumnType} (h : cell.FitsType type) (place : Nat) :
    (cell.slot type.slotSize place).length = type.slotSize := by
  cases cell with
  | null => simp [slot]
  | boolean b => obtain rfl := h .boolean rfl; rfl
  | long n => obtain rfl := h .long rfl; simp [slot, ColumnType.slotSize]
  | double x => obtain rfl := h .double rfl; simp [slot, ColumnType.slotSize]
  | string s => obtain rfl := h .string rfl; simp [slot, ColumnType.slotSize]
  | timestamp i => obtain rfl := h .timestamp rfl; simp [slot, ColumnType.slotSize]
  | json tree => obtain rfl := h .json rfl; simp [slot, ColumnType.slotSize]

end Cell

/-- Where the content behind some cells is, when the first content is at `place`. -/
def contentPlace (place : Nat) (cells : List Cell) : Nat :=
  cells.foldl (fun place c => place + c.content.length) place

theorem contentPlace_eq (place : Nat) (cells : List Cell) :
    contentPlace place cells = place + (cells.flatMap Cell.content).length := by
  induction cells generalizing place with
  | nil => rfl
  | cons c cells ih =>
    rw [contentPlace, List.foldl_cons, ← contentPlace, ih, List.flatMap_cons, List.length_append]
    omega

/-- No content reaches beyond the contents of all cells. -/
theorem content_ends (place : Nat) {cells : List Cell} {index : Nat} {cell : Cell}
    (hv : cells[index]? = some cell) :
    contentPlace place (cells.take index) + cell.content.length ≤
      place + (cells.flatMap Cell.content).length := by
  have whole : cells = cells.take index ++ cell :: cells.drop (index + 1) := by
    obtain ⟨hi, rfl⟩ := List.getElem?_eq_some_iff.mp hv
    simp
  have lengths := congrArg (fun cells => (List.flatMap Cell.content cells).length) whole
  simp only [List.flatMap_append, List.flatMap_cons, List.length_append] at lengths
  rw [contentPlace_eq]
  omega

namespace Schema

/-- The row has a fitting cell for each column. -/
def Fits (s : Schema) (cells : List Cell) : Prop :=
  List.Forall₂ (fun c cell => Cell.FitsType cell c.type) s.columns cells

/-- The slots of a row; contents follow each other from `place`. -/
def rowSlots : List Column → List Cell → Nat → List UInt8
  | c :: columns, cell :: cells, place =>
    cell.slot c.type.slotSize place ++ rowSlots columns cells (place + cell.content.length)
  | _, _, _ => []

def rowSize (s : Schema) (cells : List Cell) : Nat := contentPlace s.fixedSize cells

/-- The bytes of a row that starts at `base` in its page. -/
def rowBytes (s : Schema) (cells : List Cell) (base : Nat) : List UInt8 :=
  littleEndian 4 (s.rowSize cells) ++ (packFlags (cells.map Cell.isNull) ++
    (rowSlots s.columns cells (base + s.fixedSize) ++ cells.flatMap Cell.content))

/-- Where the slot behind some columns is, when the first slot is at `place`. -/
def slotPlace (place : Nat) (columns : List Column) : Nat :=
  columns.foldl (fun place c => place + c.type.slotSize) place

theorem foldl_widths (columns : List Column) (place : Nat) :
    (columns.map fun c => c.type.slotSize).foldl (· + ·) place = slotPlace place columns := by
  rw [slotPlace, List.foldl_map]

theorem slotOffset?_eq (s : Schema) {index : Nat} (h : index < s.size) :
    s.slotOffset? index = some (slotPlace s.slotsStart (s.columns.take index)) := by
  rw [slotOffset?, if_pos h, slotWidths, ← List.map_take, foldl_widths]

theorem fixedSize_eq (s : Schema) : s.fixedSize = slotPlace s.slotsStart s.columns :=
  foldl_widths s.columns s.slotsStart

theorem slotPlace_add (base place : Nat) (columns : List Column) :
    slotPlace (base + place) columns = base + slotPlace place columns := by
  induction columns generalizing place with
  | nil => rfl
  | cons c columns ih =>
    rw [slotPlace, List.foldl_cons, ← slotPlace, Nat.add_assoc, ih]
    rfl

theorem rowSlots_length {columns : List Column} {cells : List Cell}
    (h : List.Forall₂ (fun c cell => Cell.FitsType cell c.type) columns cells) (start place : Nat) :
    start + (rowSlots columns cells place).length = slotPlace start columns := by
  induction h generalizing start place with
  | nil => rfl
  | @cons c cell columns cells fits _ ih =>
    rw [rowSlots, List.length_append, Cell.slot_length fits, ← Nat.add_assoc, ih]
    rfl

theorem rowBytes_length {s : Schema} {cells : List Cell} (h : s.Fits cells) (base : Nat) :
    (s.rowBytes cells base).length = s.rowSize cells := by
  have slots := rowSlots_length h s.slotsStart (base + s.fixedSize)
  have flags : (packFlags (cells.map Cell.isNull)).length = s.bitmapSize := by
    rw [packFlags_length, List.length_map, bitmapSize, size, h.length_eq]
  rw [← fixedSize_eq] at slots
  rw [rowSize, contentPlace_eq, ← slots]
  simp only [rowBytes, List.length_append, littleEndian_length, flags, slotsStart, recordHeaderSize]
  omega

end Schema

/-- Each slot of a row stands behind the slots before it and points behind the contents before
it. -/
theorem slot_standsAt {data : Array UInt8} {columns : List Column} {cells : List Cell}
    (h : List.Forall₂ (fun c cell => Cell.FitsType cell c.type) columns cells) {start place : Nat}
    (stands : StandsAt data start (Schema.rowSlots columns cells place)) {index : Nat} {c : Column}
    {cell : Cell} (hc : columns[index]? = some c) (hv : cells[index]? = some cell) :
    StandsAt data (Schema.slotPlace start (columns.take index))
      (cell.slot c.type.slotSize (contentPlace place (cells.take index))) := by
  induction h generalizing start place index with
  | nil => simp at hc
  | @cons c₀ cell₀ columns cells fits _ ih =>
    cases index with
    | zero =>
      simp only [List.getElem?_cons_zero, Option.some.injEq] at hc hv
      subst hc hv
      exact stands.left
    | succ index =>
      have rest := stands.right
      rw [Cell.slot_length fits] at rest
      exact ih rest hc hv

theorem content_standsAt {data : Array UInt8} {cells : List Cell} {place : Nat}
    (stands : StandsAt data place (cells.flatMap Cell.content)) {index : Nat} {cell : Cell}
    (hv : cells[index]? = some cell) :
    StandsAt data (contentPlace place (cells.take index)) cell.content := by
  induction cells generalizing place index with
  | nil => simp at hv
  | cons cell₀ cells ih =>
    rw [List.flatMap_cons] at stands
    cases index with
    | zero =>
      simp only [List.getElem?_cons_zero, Option.some.injEq] at hv
      subst hv
      exact stands.left
    | succ index => exact ih stands.right hv

end BulkTransfer
