import BulkTransfer.Proofs.Page.Row
import BulkTransfer.Proofs.Time.Calendar
/-!
# Rows and pages read back

A record over the bytes of a row reads every cell of the row: the null flag, the slot in its place
and, for strings and JSON texts, the content that the slot points to.

In a page rows follow each other from its start, and the records that are found there are one for each row,
in order. The length at the start of a row leads to the next one.
-/
namespace BulkTransfer

namespace Record

/-- What is read from a column that holds a cell. An instant has to be one of the calendar, and of a
JSON value it is the stored text that counts. -/
def Holds (r : Record) (column : Nat) (cell : Cell) : Prop :=
  r.isNull column = cell.isNull ∧
    match cell with
    | .timestamp i => i.IsStorable → r.cell column = .ok (.timestamp i)
    | .json tree => r.jsonText? column = .ok (some tree.compact)
    | other => r.cell column = .ok other

/-- The record has these cells, and no others. -/
def HoldsRow (r : Record) (cells : List Cell) : Prop :=
  r.schema.size = cells.length ∧
    ∀ column cell, cells[column]? = some cell → r.Holds column cell

/-- The bytes of a row stand where the record starts, with all places within four bytes. -/
structure IsOver (r : Record) (cells : List Cell) : Prop where
  fits : r.schema.Fits cells
  stands : StandsAt r.data r.start (r.schema.rowBytes cells r.start)
  bound : r.start + r.schema.rowSize cells ≤ greatestOffset

namespace IsOver

variable {r : Record} {cells : List Cell} {column : Nat} {cell : Cell} {c : Column}

theorem column_eq (h : r.IsOver cells) (hv : cells[column]? = some cell) :
    ∃ c, r.schema.columns[column]? = some c ∧ cell.FitsType c.type := by
  have inside : column < r.schema.columns.length := by
    rw [h.fits.length_eq]
    exact (List.getElem?_eq_some_iff.mp hv).1
  refine ⟨r.schema.columns[column], List.getElem?_eq_getElem inside, ?_⟩
  obtain ⟨hi, rfl⟩ := List.getElem?_eq_some_iff.mp hv
  exact h.fits.get inside hi

/-- The bit of a column tells whether its cell is null. -/
theorem flag_stands (h : r.IsOver cells) (hv : cells[column]? = some cell) :
    ∃ byte, r.data[r.start + recordHeaderSize + column / 8]? = some byte ∧
      byte.toNat.testBit (column % 8) = cell.isNull := by
  have flags := h.stands.right.left
  have inside : column < (cells.map Cell.isNull).length := by
    rw [List.length_map]
    exact (List.getElem?_eq_some_iff.mp hv).1
  obtain ⟨byte, place, bit⟩ := packFlags_testBit _ column inside
  have found := flags.byte place
  rw [littleEndian_length] at found
  refine ⟨byte, found, ?_⟩
  simp only [bit, List.getElem?_map, hv, Option.map_some, Option.getD_some]

theorem isNull_eq (h : r.IsOver cells) (hv : cells[column]? = some cell) :
    r.isNull column = cell.isNull := by
  obtain ⟨byte, found, bit⟩ := h.flag_stands hv
  rw [isNull, found]
  exact bit

theorem flags_length (h : r.IsOver cells) :
    (packFlags (cells.map Cell.isNull)).length = r.schema.bitmapSize := by
  rw [packFlags_length, List.length_map, Schema.bitmapSize, Schema.size, h.fits.length_eq]

/-- Every slot is where the reader looks for it, that of a null as well. -/
theorem slot_stands (h : r.IsOver cells) (hv : cells[column]? = some cell)
    (hc : r.schema.columns[column]? = some c) :
    StandsAt r.data (r.start + Schema.slotPlace r.schema.slotsStart (r.schema.columns.take column))
      (cell.slot c.type.slotSize
        (contentPlace (r.start + r.schema.fixedSize) (cells.take column))) := by
  have slots := h.stands.right.right.left
  rw [littleEndian_length, h.flags_length, Nat.add_assoc] at slots
  have stands := slot_standsAt h.fits slots hc hv
  rwa [show (4 : Nat) + r.schema.bitmapSize = r.schema.slotsStart from rfl, Schema.slotPlace_add]
    at stands

/-- The contents follow the slots. -/
theorem content_stands (h : r.IsOver cells) (hv : cells[column]? = some cell) :
    StandsAt r.data (contentPlace (r.start + r.schema.fixedSize) (cells.take column)) cell.content := by
  have slots : r.start + r.schema.fixedSize =
      r.start + 4 + r.schema.bitmapSize +
        (Schema.rowSlots r.schema.columns cells (r.start + r.schema.fixedSize)).length := by
    have length := Schema.rowSlots_length h.fits r.schema.slotsStart (r.start + r.schema.fixedSize)
    rw [← Schema.fixedSize_eq] at length
    have : r.schema.slotsStart = 4 + r.schema.bitmapSize := rfl
    omega
  have contents := h.stands.right.right.right
  rw [littleEndian_length, h.flags_length, ← slots] at contents
  exact content_standsAt contents hv

/-- The slot of a cell that is not null. -/
theorem slot?_eq (h : r.IsOver cells) (hv : cells[column]? = some cell)
    (hc : r.schema.columns[column]? = some c) (filled : cell.isNull = false) :
    r.slot? column c.type = .ok (some (cell.slot c.type.slotSize
      (contentPlace (r.start + r.schema.fixedSize) (cells.take column)))) := by
  obtain ⟨c', hc', fits⟩ := h.column_eq hv
  obtain rfl : c' = c := Option.some.inj (hc'.symm.trans hc)
  have inside : column < r.schema.size := (List.getElem?_eq_some_iff.mp hc).1
  have expected : r.schema.expectType column c'.type = .ok () := by
    simp [Schema.expectType, Schema.column?, hc]
  have slice := (h.slot_stands hv hc).slice
  rw [Cell.slot_length fits] at slice
  rw [slot?, expected, r.schema.slotOffset?_eq inside, h.isNull_eq hv, filled]
  simp only [bind, Except.bind, slice]
  rfl

/-- The content of a string or of a JSON text. -/
theorem content?_eq (h : r.IsOver cells) (hv : cells[column]? = some cell)
    (hc : r.schema.columns[column]? = some c) (filled : cell.isNull = false)
    (wide : ∀ place, cell.slot c.type.slotSize place =
      littleEndian 4 place ++ littleEndian 4 cell.content.length) :
    r.content? column c.type = .ok (some cell.content) := by
  have stands := h.content_stands hv
  -- the content lies within the row, so its place and its length survive in four bytes
  have within := content_ends (r.start + r.schema.fixedSize) hv
  have size : r.schema.rowSize cells = r.schema.fixedSize + (cells.flatMap Cell.content).length :=
    contentPlace_eq _ _
  have bound := h.bound
  rw [content?, h.slot?_eq hv hc filled, wide]
  simp only [bind, Except.bind, List.take_append_of_le_length, List.drop_append_of_le_length,
    littleEndian_length, le_refl]
  rw [List.take_of_length_le (by simp), List.drop_of_length_le (by simp), List.nil_append,
    ofLittleEndian_four (by omega), ofLittleEndian_four (by omega)]
  simp only [stands.slice]
  rfl

theorem slot?_null (h : r.IsOver cells) (hv : cells[column]? = some .null)
    (hc : r.schema.columns[column]? = some c) : r.slot? column c.type = .ok none := by
  have inside : column < r.schema.size := (List.getElem?_eq_some_iff.mp hc).1
  have expected : r.schema.expectType column c.type = .ok () := by
    simp [Schema.expectType, Schema.column?, hc]
  rw [slot?, expected, r.schema.slotOffset?_eq inside, h.isNull_eq hv]
  rfl

theorem cell_null (h : r.IsOver cells) (hv : cells[column]? = some .null) :
    r.cell column = .ok .null := by
  obtain ⟨c, hc, -⟩ := h.column_eq hv
  have type : r.schema.typeOf? column = some c.type := by
    simp [Schema.typeOf?, Schema.column?, hc]
  have slot := h.slot?_null hv hc
  rw [Record.cell, type]
  cases kind : c.type <;> rw [kind] at slot <;>
    simp [boolean?, long?, double?, string?, timestamp?, json?, content?, slot, cellOf, bind,
      Except.bind, pure, Except.pure]

theorem cell_typed (h : r.IsOver cells) (hv : cells[column]? = some cell) {t : ColumnType}
    (ht : cell.type? = some t) :
    ∃ c, r.schema.columns[column]? = some c ∧ c.type = t ∧ r.schema.typeOf? column = some t := by
  obtain ⟨c, hc, fits⟩ := h.column_eq hv
  obtain rfl := fits t ht
  exact ⟨c, hc, rfl, by simp [Schema.typeOf?, Schema.column?, hc]⟩

theorem boolean?_eq {b : Bool} (h : r.IsOver cells) (hv : cells[column]? = some (.boolean b)) :
    r.boolean? column = .ok (some b) := by
  obtain ⟨c, hc, kind, -⟩ := h.cell_typed hv (t := .boolean) rfl
  have slot := h.slot?_eq hv hc rfl
  rw [kind] at slot
  cases b <;>
    simp [boolean?, slot, Cell.slot, bind, Except.bind, pure, Except.pure, ofLittleEndian]

theorem cell_boolean {b : Bool} (h : r.IsOver cells) (hv : cells[column]? = some (.boolean b)) :
    r.cell column = .ok (.boolean b) := by
  obtain ⟨c, -, -, type⟩ := h.cell_typed hv (t := .boolean) rfl
  rw [Record.cell, type]
  simp only [h.boolean?_eq hv]
  rfl

theorem int64_littleEndian (n : Int64) : int64 (littleEndian 8 n.toUInt64.toNat) = n := by
  rw [int64, ofLittleEndian_eight, UInt64.ofNat_toNat]
  rfl

theorem long?_eq {n : Int64} (h : r.IsOver cells) (hv : cells[column]? = some (.long n)) :
    r.long? column = .ok (some n) := by
  obtain ⟨c, hc, kind, -⟩ := h.cell_typed hv (t := .long) rfl
  have slot := h.slot?_eq hv hc rfl
  rw [kind] at slot
  simp [long?, slot, Cell.slot, bind, Except.bind, pure, Except.pure, int64_littleEndian]

theorem cell_long {n : Int64} (h : r.IsOver cells) (hv : cells[column]? = some (.long n)) :
    r.cell column = .ok (.long n) := by
  obtain ⟨c, -, -, type⟩ := h.cell_typed hv (t := .long) rfl
  rw [Record.cell, type]
  simp only [h.long?_eq hv]
  rfl

theorem double?_eq {x : Double} (h : r.IsOver cells) (hv : cells[column]? = some (.double x)) :
    r.double? column = .ok (some x) := by
  obtain ⟨c, hc, kind, -⟩ := h.cell_typed hv (t := .double) rfl
  have slot := h.slot?_eq hv hc rfl
  rw [kind] at slot
  simp [double?, slot, Cell.slot, bind, Except.bind, pure, Except.pure, ofLittleEndian_eight]

theorem cell_double {x : Double} (h : r.IsOver cells) (hv : cells[column]? = some (.double x)) :
    r.cell column = .ok (.double x) := by
  obtain ⟨c, -, -, type⟩ := h.cell_typed hv (t := .double) rfl
  rw [Record.cell, type]
  simp only [h.double?_eq hv]
  rfl

theorem cell_timestamp {i : Instant} (h : r.IsOver cells)
    (hv : cells[column]? = some (.timestamp i)) (storable : i.IsStorable) :
    r.cell column = .ok (.timestamp i) := by
  obtain ⟨c, hc, kind, type⟩ := h.cell_typed hv (t := .timestamp) rfl
  have slot := h.slot?_eq hv hc rfl
  obtain ⟨-, nanos, parts⟩ := storable.parts
  have seconds : (int64 (littleEndian 8 (Int64.ofInt i.seconds).toUInt64.toNat)).toInt =
      i.seconds := by
    rw [int64_littleEndian]
    exact Int64.toInt_ofInt_of_le storable.seconds_range.1 storable.seconds_range.2
  have rest : ofLittleEndian (littleEndian 4 i.nanos) = i.nanos :=
    ofLittleEndian_four (by rw [greatestOffset]; omega)
  rw [kind] at slot
  rw [Record.cell, type]
  simp [timestamp?, slot, Cell.slot, cellOf, bind, Except.bind, pure, Except.pure, seconds, rest,
    parts]

theorem string?_eq {s : String} (h : r.IsOver cells) (hv : cells[column]? = some (.string s)) :
    r.string? column = .ok (some s) := by
  obtain ⟨c, hc, kind, -⟩ := h.cell_typed hv (t := .string) rfl
  have content := h.content?_eq hv hc rfl fun _ => rfl
  rw [kind] at content
  simp [string?, content, Cell.content, utf8, Utf8.decode_encode, bind, Except.bind, pure,
    Except.pure]

theorem cell_string {s : String} (h : r.IsOver cells) (hv : cells[column]? = some (.string s)) :
    r.cell column = .ok (.string s) := by
  obtain ⟨c, -, -, type⟩ := h.cell_typed hv (t := .string) rfl
  rw [Record.cell, type]
  simp only [h.string?_eq hv]
  rfl

theorem jsonText?_eq {tree : Tree} (h : r.IsOver cells)
    (hv : cells[column]? = some (.json tree)) :
    r.jsonText? column = .ok (some tree.compact) := by
  obtain ⟨c, hc, kind, -⟩ := h.cell_typed hv (t := .json) rfl
  have content := h.content?_eq hv hc rfl fun _ => rfl
  rw [kind] at content
  simp [jsonText?, content, Cell.content, utf8, Utf8.decode_encode, bind, Except.bind, pure,
    Except.pure]

theorem holds (h : r.IsOver cells) (hv : cells[column]? = some cell) : r.Holds column cell := by
  refine ⟨h.isNull_eq hv, ?_⟩
  cases cell with
  | null => exact h.cell_null hv
  | boolean b => exact h.cell_boolean hv
  | long n => exact h.cell_long hv
  | double x => exact h.cell_double hv
  | string s => exact h.cell_string hv
  | timestamp i => exact h.cell_timestamp hv
  | json tree => exact h.jsonText?_eq hv

theorem holdsRow (h : r.IsOver cells) : r.HoldsRow cells :=
  ⟨h.fits.length_eq, fun _ _ hv => h.holds hv⟩

end IsOver

end Record

namespace Schema

/-- The bytes of rows that follow each other from `base` on. -/
def rowsBytes (s : Schema) : List (List Cell) → Nat → List UInt8
  | [], _ => []
  | row :: rows, base => s.rowBytes row base ++ rowsBytes s rows (base + s.rowSize row)

variable {s : Schema}

theorem rowsBytes_concat {rows : List (List Cell)} (fits : ∀ row ∈ rows, s.Fits row)
    (last : List Cell) (base : Nat) :
    s.rowsBytes (rows ++ [last]) base =
      s.rowsBytes rows base ++ s.rowBytes last (base + (s.rowsBytes rows base).length) := by
  induction rows generalizing base with
  | nil => simp [rowsBytes]
  | cons row rows ih =>
    have first := rowBytes_length (fits row List.mem_cons_self) base
    have rest := ih (fun r hr => fits r (List.mem_cons_of_mem _ hr)) (base + s.rowSize row)
    rw [List.cons_append, rowsBytes, rest, rowsBytes, List.length_append, first, Nat.add_assoc,
      List.append_assoc]

theorem rowsBytes_length {rows : List (List Cell)} (fits : ∀ row ∈ rows, s.Fits row) (base : Nat) :
    (s.rowsBytes rows base).length = (rows.map s.rowSize).sum := by
  induction rows generalizing base with
  | nil => rfl
  | cons row rows ih =>
    rw [rowsBytes, List.length_append, rowBytes_length (fits row List.mem_cons_self),
      ih fun r hr => fits r (List.mem_cons_of_mem _ hr)]
    rfl

/-- The rows have room in pages of this size: each of them, and all of them together where a page may
become larger than places in it can be stored. -/
structure HasRoom (s : Schema) (pageSize : Nat) (rows : List (List Cell)) : Prop where
  each : ∀ row ∈ rows, s.rowSize row ≤ greatestOffset
  all : pageSize ≤ greatestOffset ∨ (rows.map s.rowSize).sum ≤ greatestOffset

theorem HasRoom.parts {pageSize : Nat} {first second : List (List Cell)}
    (h : s.HasRoom pageSize (first ++ second)) :
    s.HasRoom pageSize first ∧ s.HasRoom pageSize second := by
  have sum : ((first ++ second).map s.rowSize).sum =
      (first.map s.rowSize).sum + (second.map s.rowSize).sum := by
    rw [List.map_append, List.sum_append]
  refine ⟨⟨fun row hm => h.each row (List.mem_append_left _ hm), ?_⟩,
    fun row hm => h.each row (List.mem_append_right _ hm), ?_⟩
  · exact h.all.imp_right fun all => by omega
  · exact h.all.imp_right fun all => by omega

theorem header_le_rowSize {row : List Cell} (fits : s.Fits row) :
    recordHeaderSize ≤ s.rowSize row := by
  rw [← rowBytes_length fits 0, rowBytes, List.length_append, littleEndian_length]
  exact Nat.le_add_right _ _

end Schema

/-- Where rows stand, the lengths lead from each row to the next. -/
theorem starts_over {s : Schema} {data : Array UInt8} {rows : List (List Cell)} {base : Nat}
    (fits : ∀ row ∈ rows, s.Fits row) (stands : StandsAt data base (s.rowsBytes rows base))
    (bound : data.size ≤ greatestOffset) :
    List.Forall₂ (fun start row => Record.IsOver ⟨data, start, s⟩ row)
      (Page.starts data rows.length base) rows := by
  induction rows generalizing base with
  | nil => exact .nil
  | cons row rows ih =>
    have rowFits := fits row List.mem_cons_self
    have size := Schema.rowBytes_length rowFits base
    have here := stands.left
    have next := stands.right
    rw [size] at next
    have inside := here.bound
    rw [size] at inside
    have length : ofLittleEndian (littleEndian 4 (s.rowSize row)) = s.rowSize row :=
      ofLittleEndian_four (by omega)
    have header : slice? data base recordHeaderSize = some (littleEndian 4 (s.rowSize row)) :=
      here.left.slice
    have isSound : ¬ (s.rowSize row < recordHeaderSize ∨ base + s.rowSize row > data.size) := by
      have := Schema.header_le_rowSize rowFits
      omega
    simp only [List.length_cons, Page.starts, header, length, if_neg isSound]
    refine .cons ⟨rowFits, here, ?_⟩ (ih (fun r hr => fits r (List.mem_cons_of_mem _ hr)) next)
    exact Nat.le_trans inside bound

namespace Page

/-- The page consists of these rows. -/
structure IsOf (p : Page) (s : Schema) (rows : List (List Cell)) : Prop where
  bytes : p.bytes.toList = s.rowsBytes rows 0
  count : p.recordCount = rows.length
  fits : ∀ row ∈ rows, s.Fits row
  bound : p.bytes.size ≤ greatestOffset

theorem IsOf.size {p : Page} {s : Schema} {rows : List (List Cell)} (h : p.IsOf s rows) :
    p.bytes.size = (rows.map s.rowSize).sum := by
  rw [← Array.length_toList, h.bytes, Schema.rowsBytes_length h.fits]

theorem IsOf.records_hold {p : Page} {s : Schema} {rows : List (List Cell)} (h : p.IsOf s rows) :
    List.Forall₂ Record.HoldsRow (p.records s) rows := by
  have stands : StandsAt p.bytes 0 (s.rowsBytes rows 0) := ⟨[], [], by simp [h.bytes], rfl⟩
  rw [records, h.count, List.forall₂_map_left_iff]
  exact (starts_over h.fits stands h.bound).imp fun _ _ isOver => isOver.holdsRow

end Page

end BulkTransfer
