import BulkTransfer.Proofs.Page.Sharing
import BulkTransfer.Proofs.Schema.Columns
/-!
# The parts of a record

The length of a record, its bitmap and its slots follow each other without a gap, and the slots are as
wide as their columns want them. In a record that is encoded the contents follow the slots in the order of
the columns, each where its slot says. So every byte of a record belongs to one of these parts alone,
whichever columns are null.
-/
namespace BulkTransfer

/-- Some bytes that follow each other. -/
structure ByteRange where
  start : Nat
  size : Nat
  deriving DecidableEq, Repr

namespace ByteRange

def stop (r : ByteRange) : Nat := r.start + r.size

instance : Membership Nat ByteRange := ⟨fun r place => r.start ≤ place ∧ place < r.stop⟩

theorem mem_def {place : Nat} {r : ByteRange} : place ∈ r ↔ r.start ≤ place ∧ place < r.stop := .rfl

/-- No byte is in both of them. -/
def Apart (r r' : ByteRange) : Prop := ∀ place ∈ r, place ∉ r'

/-- The ranges follow each other without a gap, the first one from `low` on and the last one up to
`high`. -/
def Tile : Nat → List ByteRange → Nat → Prop
  | low, [], high => low = high
  | low, r :: rest, high => r.start = low ∧ Tile r.stop rest high

/-- The bytes from `low` up to `high` are divided into these ranges: they follow each other, none reaches
into another one, and each byte is in one of them. -/
structure Partition (low : Nat) (ranges : List ByteRange) (high : Nat) : Prop where
  consecutive : Tile low ranges high
  inside : ∀ r ∈ ranges, low ≤ r.start ∧ r.stop ≤ high
  apart : ranges.Pairwise Apart
  covers : ∀ place, (∃ r ∈ ranges, place ∈ r) ↔ low ≤ place ∧ place < high

namespace Tile

variable {ranges : List ByteRange} {low high : Nat}

theorem le (h : Tile low ranges high) : low ≤ high := by
  induction ranges generalizing low with
  | nil => exact Nat.le_of_eq h
  | cons r rest ih =>
    obtain ⟨rfl, behind⟩ := h
    exact Nat.le_trans (Nat.le_add_right _ _) (ih behind)

theorem inside (h : Tile low ranges high) : ∀ r ∈ ranges, low ≤ r.start ∧ r.stop ≤ high := by
  induction ranges generalizing low with
  | nil => simp
  | cons r rest ih =>
    obtain ⟨rfl, behind⟩ := h
    have later : r.start ≤ r.stop := Nat.le_add_right _ _
    intro r' member
    rcases List.mem_cons.mp member with rfl | member
    · exact ⟨Nat.le_refl _, behind.le⟩
    · obtain ⟨after, before⟩ := ih behind r' member
      exact ⟨Nat.le_trans later after, before⟩

theorem apart (h : Tile low ranges high) : ranges.Pairwise Apart := by
  induction ranges generalizing low with
  | nil => exact .nil
  | cons r rest ih =>
    obtain ⟨-, behind⟩ := h
    refine .cons (fun r' member place here there => ?_) (ih behind)
    have after := (behind.inside r' member).1
    rw [mem_def] at here there
    omega

theorem covers (h : Tile low ranges high) (place : Nat) :
    (∃ r ∈ ranges, place ∈ r) ↔ low ≤ place ∧ place < high := by
  induction ranges generalizing low with
  | nil =>
    obtain rfl : low = high := h
    simp
  | cons r rest ih =>
    obtain ⟨rfl, behind⟩ := h
    have later : r.start ≤ r.stop := Nat.le_add_right _ _
    have up := behind.le
    rw [List.exists_mem_cons_iff, ih behind, mem_def]
    omega

theorem partition (h : Tile low ranges high) : Partition low ranges high :=
  ⟨h, h.inside, h.apart, h.covers⟩

end Tile

/-- Ranges of these sizes, the first one from `start` on. -/
def layOut : Nat → List Nat → List ByteRange
  | _, [] => []
  | start, size :: sizes => ⟨start, size⟩ :: layOut (start + size) sizes

theorem layOut_tile (start : Nat) (sizes : List Nat) :
    Tile start (layOut start sizes) (sizes.foldl (· + ·) start) := by
  induction sizes generalizing start with
  | nil => rfl
  | cons size sizes ih => exact ⟨rfl, ih _⟩

theorem layOut_sizes (start : Nat) (sizes : List Nat) : (layOut start sizes).map size = sizes := by
  induction sizes generalizing start with
  | nil => rfl
  | cons size sizes ih => rw [layOut, List.map_cons, ih]

theorem layOut_getElem? (start : Nat) (sizes : List Nat) (i : Nat) :
    (layOut start sizes)[i]? =
      sizes[i]?.map fun size => ⟨(sizes.take i).foldl (· + ·) start, size⟩ := by
  induction sizes generalizing start i with
  | nil => rfl
  | cons size sizes ih =>
    cases i with
    | zero => rfl
    | succ i => exact ih _ i

end ByteRange

namespace Schema

open ByteRange

/-- The bytes of the length. -/
def headerRange : ByteRange := ⟨0, recordHeaderSize⟩

def bitmapRange (s : Schema) : ByteRange := ⟨recordHeaderSize, s.bitmapSize⟩

def slotRanges (s : Schema) : List ByteRange := layOut s.slotsStart s.slotWidths

/-- The byte of a record, and the bit in it, that tell whether a column is null. -/
def nullFlag (column : Nat) : Nat × Nat := (recordHeaderSize + column / 8, column % 8)

/-- What is in the same place in all records: each slot is where it is looked for and has the width of its
column's type; with the length and the bitmap the slots divide all bytes that there are without contents;
and each column has a bit of its own, in the bitmap. -/
structure IsLaidOut (s : Schema) : Prop where
  offsets : ∀ i, s.slotOffset? i = s.slotRanges[i]?.map ByteRange.start
  widths : s.slotRanges.map ByteRange.size = s.columns.map fun c => c.type.slotSize
  parts : Partition 0 (headerRange :: s.bitmapRange :: s.slotRanges) s.fixedSize
  flag_inside : ∀ i < s.size, (nullFlag i).1 ∈ s.bitmapRange ∧ (nullFlag i).2 < 8
  flags_apart : Function.Injective nullFlag

theorem isLaidOut (s : Schema) : s.IsLaidOut where
  offsets := by
    intro i
    rw [slotOffset?, slotRanges, layOut_getElem?, Option.map_map]
    by_cases inside : i < s.size
    · have width : i < s.slotWidths.length := by rwa [slotWidths, List.length_map]
      rw [if_pos inside, List.getElem?_eq_getElem width]
      rfl
    · have width : s.slotWidths[i]? = none := by
        rw [List.getElem?_eq_none_iff, slotWidths, List.length_map]
        exact Nat.not_lt.mp inside
      rw [if_neg inside, width]
      rfl
  widths := layOut_sizes _ _
  parts := by
    have slots : Tile s.slotsStart s.slotRanges s.fixedSize := layOut_tile _ _
    exact Tile.partition ⟨rfl, rfl, slots⟩
  flag_inside := by
    intro i inside
    rw [mem_def]
    simp only [nullFlag, bitmapRange, ByteRange.stop, bitmapSize]
    omega
  flags_apart := by
    intro i j same
    simp only [nullFlag, Prod.mk.injEq] at same
    omega

/-- The values are what a writer can have staged for a record: they stand for cells that fit the
columns. -/
def IsStaged (s : Schema) (values : List Staged) (scratch : Array UInt8) : Prop :=
  ∃ cells, s.Fits cells ∧ RepresentsRow scratch values cells

/-- Where the contents are, in a record that starts at `base`; all but strings and JSON texts have empty
ones. -/
def contentRanges (s : Schema) (values : List Staged) (base : Nat) : List ByteRange :=
  layOut (base + s.fixedSize) (values.map Staged.contentSize)

/-- The bytes of a page are those of the record: its length, then flag by flag, slot by slot and content by
content. A reader sees the flags, and it finds each content through the slot of its column. -/
structure Shows (s : Schema) (values : List Staged) (scratch data : Array UInt8) (base : Nat) :
    Prop where
  header : (slice? data base recordHeaderSize).map ofLittleEndian =
    some (s.encodeRecord values scratch base).length
  flag : ∀ (i : Nat) (v : Staged), values[i]? = some v →
    ∃ byte, data[base + (nullFlag i).1]? = some byte ∧ byte.toNat.testBit (nullFlag i).2 = v.isNull
  slot : ∀ (i : Nat) (v : Staged) (slot content : ByteRange), values[i]? = some v →
    s.slotRanges[i]? = some slot → (s.contentRanges values base)[i]? = some content →
      slice? data (base + slot.start) slot.size = some (v.slot slot.size content.start)
  content : ∀ (i : Nat) (v : Staged) (content : ByteRange), values[i]? = some v →
    (s.contentRanges values base)[i]? = some content →
      slice? data content.start content.size = some (v.contentIn scratch)
  sees : ∀ (i : Nat) (v : Staged), values[i]? = some v → Record.isNull ⟨data, base, s⟩ i = v.isNull
  finds : ∀ (i start length : Nat) (c : Column), values[i]? = some (.content start length) →
    s.columns[i]? = some c → Record.content? ⟨data, base, s⟩ i c.type =
      .ok (some ((Staged.content start length).contentIn scratch))

/-- How a record is encoded that starts at `base`: it has the bytes of fixed place and those of the
contents, and no others. The contents divide all bytes behind the slots. -/
structure Encodes (s : Schema) (values : List Staged) (scratch : Array UInt8) (base : Nat) : Prop where
  size : (s.encodeRecord values scratch base).length =
    s.fixedSize + (values.map Staged.contentSize).sum
  slots : ∀ slot ∈ s.slotRanges, slot.stop ≤ (s.encodeRecord values scratch base).length
  sizes : (s.contentRanges values base).map ByteRange.size = values.map Staged.contentSize
  contents : Partition (base + s.fixedSize) (s.contentRanges values base)
    (base + (s.encodeRecord values scratch base).length)
  bytes : base + (s.encodeRecord values scratch base).length ≤ greatestOffset →
    ∀ data, StandsAt data base (s.encodeRecord values scratch base) → s.Shows values scratch data base

section Encoding

variable {s : Schema} {values : List Staged} {scratch data : Array UInt8} {cells : List Cell}
  {base i : Nat} {v : Staged} {cell : Cell}

theorem foldl_sizes (sizes : List Nat) (start : Nat) : sizes.foldl (· + ·) start = start + sizes.sum :=
  List.foldl_eq_apply_foldr

theorem encodeRecord_length (fits : s.Fits cells) (staged : RepresentsRow scratch values cells)
    (base : Nat) : (s.encodeRecord values scratch base).length =
      s.fixedSize + (values.map Staged.contentSize).sum := by
  rw [staged.encodeRecord_eq, rowBytes_length fits, ← staged.recordSize_eq, recordSize, ← foldl_sizes,
    List.foldl_map]

/-- The contents are where the cells have theirs. -/
theorem contentRanges_getElem? (staged : RepresentsRow scratch values cells) (base : Nat)
    (hv : values[i]? = some v) : (s.contentRanges values base)[i]? =
      some ⟨contentPlace (base + s.fixedSize) (cells.take i), v.contentSize⟩ := by
  have before : RepresentsRow scratch (values.take i) (cells.take i) := List.forall₂_take i staged
  rw [contentRanges, layOut_getElem?, List.getElem?_map, hv, ← List.map_take, List.foldl_map,
    before.contentPlace_eq]
  rfl

theorem slotRanges_getElem? {c : Column} (s : Schema) (hc : s.columns[i]? = some c) :
    s.slotRanges[i]? = some ⟨slotPlace s.slotsStart (s.columns.take i), c.type.slotSize⟩ := by
  rw [slotRanges, layOut_getElem?, slotWidths, List.getElem?_map, hc, ← List.map_take, foldl_widths]
  rfl

theorem staged_at (staged : RepresentsRow scratch values cells) (hv : values[i]? = some v) :
    ∃ cell, cells[i]? = some cell ∧ v.Represents scratch cell := by
  obtain ⟨inside, rfl⟩ := List.getElem?_eq_some_iff.mp hv
  have inside' : i < cells.length := staged.length_eq ▸ inside
  exact ⟨_, List.getElem?_eq_getElem inside', staged.get inside inside'⟩

theorem shows_of_standsAt (fits : s.Fits cells) (staged : RepresentsRow scratch values cells)
    (bound : base + (s.encodeRecord values scratch base).length ≤ greatestOffset)
    (stands : StandsAt data base (s.encodeRecord values scratch base)) :
    s.Shows values scratch data base := by
  rw [staged.encodeRecord_eq] at stands bound
  rw [rowBytes_length fits] at bound
  have row : Record.IsOver ⟨data, base, s⟩ cells := ⟨fits, stands, bound⟩
  constructor
  case header =>
    have header : slice? data base recordHeaderSize = some (littleEndian 4 (s.rowSize cells)) :=
      stands.left.slice
    rw [header, Option.map_some, ofLittleEndian_four (by omega), staged.encodeRecord_eq,
      rowBytes_length fits]
  case flag =>
    intro i v hv
    obtain ⟨cell, hcell, represents⟩ := staged_at staged hv
    obtain ⟨byte, found, bit⟩ := row.flag_stands hcell
    rw [Nat.add_assoc] at found
    exact ⟨byte, found, bit.trans represents.isNull_eq.symm⟩
  case slot =>
    intro i v slot content hv hslot hcontent
    obtain ⟨cell, hcell, represents⟩ := staged_at staged hv
    obtain ⟨c, hc, fitsType⟩ := row.column_eq hcell
    obtain rfl := Option.some.inj ((slotRanges_getElem? s hc).symm.trans hslot)
    obtain rfl := Option.some.inj ((contentRanges_getElem? staged base hv).symm.trans hcontent)
    have slice := (row.slot_stands hcell hc).slice
    rw [Cell.slot_length fitsType] at slice
    rw [represents.slot_eq]
    exact slice
  case content =>
    intro i v content hv hcontent
    obtain ⟨cell, hcell, represents⟩ := staged_at staged hv
    obtain rfl := Option.some.inj ((contentRanges_getElem? staged base hv).symm.trans hcontent)
    rw [represents.contentSize_eq, represents.contentIn_eq]
    exact (row.content_stands hcell).slice
  case sees =>
    intro i v hv
    obtain ⟨cell, hcell, represents⟩ := staged_at staged hv
    rw [row.isNull_eq hcell, represents.isNull_eq]
  case finds =>
    intro i start length c hv hc
    obtain ⟨cell, hcell, represents⟩ := staged_at staged hv
    rw [represents.contentIn_eq]
    cases cell with
    | string text => exact row.content?_eq hcell hc rfl fun _ => rfl
    | json tree => exact row.content?_eq hcell hc rfl fun _ => rfl
    | null | boolean b | long n | double x | timestamp t => cases represents

theorem IsStaged.encodes (h : s.IsStaged values scratch) (base : Nat) :
    s.Encodes values scratch base := by
  obtain ⟨cells, fits, staged⟩ := h
  have size := encodeRecord_length fits staged base
  constructor
  case size => exact size
  case slots =>
    intro slot member
    have inside := (s.isLaidOut.parts.inside slot
      (List.mem_cons_of_mem _ (List.mem_cons_of_mem _ member))).2
    omega
  case sizes => exact layOut_sizes _ _
  case contents =>
    have tile := layOut_tile (base + s.fixedSize) (values.map Staged.contentSize)
    rw [foldl_sizes, Nat.add_assoc, ← size] at tile
    exact tile.partition
  case bytes => exact fun bound data stands => shows_of_standsAt fits staged bound stands

end Encoding

end Schema

namespace PageSession

variable {s : Schema} {x : PageSession}

/-- Whether an operation goes through or is refused, the writer has a row staged for its schema. -/
theorem perform_shows (h : ∃ rows row, x.writer.Shows s rows row) (op : PageOperation) :
    ∃ rows row, (x.perform op).2.writer.Shows s rows row := by
  obtain ⟨rows, row, shows⟩ := h
  cases op with
  | set column cell =>
    cases accepted : s.accepts column cell with
    | true =>
      obtain ⟨w, staged, next⟩ := shows.set accepted
      rw [perform, staged]
      exact ⟨_, _, next⟩
    | false =>
      obtain ⟨e, refused⟩ := shows.set_refused accepted
      rw [perform, refused]
      exact ⟨_, _, shows⟩
  | add =>
    rw [perform]
    split
    case h_1 page w pool added => exact shows.added added
    case h_2 e w pool refused =>
      rcases shows.add_cases x.pool with same | ⟨b, -, -, added⟩ | added
      · cases same.symm.trans refused
        exact ⟨_, _, shows⟩
      · cases added.symm.trans refused
      · cases added.symm.trans refused
  | flush =>
    obtain ⟨emitted, w, pool, flushed, -, next, -⟩ := shows.flush x.pool
    rw [perform, flushed]
    exact ⟨_, _, next⟩

theorem run_shows (h : ∃ rows row, x.writer.Shows s rows row) (ops : List PageOperation) :
    ∃ rows row, (x.run ops).2.writer.Shows s rows row := by
  induction ops generalizing x with
  | nil => exact h
  | cons op ops ih => exact ih (perform_shows h op)

theorem run_isStaged (s : Schema) (pool : Pool) (ops : List PageOperation) :
    s.IsStaged ((start s pool).run ops).2.writer.staged ((start s pool).run ops).2.writer.scratch := by
  have empty : ∃ rows row, (start s pool).writer.Shows s rows row :=
    ⟨[], s.nullRow, PageWriter.ofSchema_shows s⟩
  obtain ⟨rows, row, shows⟩ := run_shows empty ops
  exact ⟨row, shows.rowFits, shows.staged⟩

end PageSession

/-- There is a schema for every list of column types. In each schema the length, the bitmap and the slots
are a partition of the bytes of fixed place, with a bit of its own for each column. Every record that can
be staged, and a writer never has another one, is encoded into these bytes and those of its contents, which
are a partition of the bytes behind the slots, in the order of the columns. -/
theorem record_layout_is_a_partition :
    (∀ types : List ColumnType, ∃ s : Schema, s.columns.map Column.type = types) ∧
      ∀ s : Schema, s.IsLaidOut ∧
        (∀ values scratch, s.IsStaged values scratch → ∀ base, s.Encodes values scratch base) ∧
          ∀ pool ops, s.IsStaged ((PageSession.start s pool).run ops).2.writer.staged
            ((PageSession.start s pool).run ops).2.writer.scratch :=
  ⟨Schema.exists_ofTypes, fun s =>
    ⟨s.isLaidOut, fun _ _ staged base => staged.encodes base, PageSession.run_isStaged s⟩⟩

/-- Nulls between strings that are staged in another order than that of their columns. -/
theorem mixed_record_is_divided :
    let s : Schema := ⟨[⟨0, "b", .boolean⟩, ⟨1, "l", .long⟩, ⟨2, "t", .timestamp⟩, ⟨3, "s", .string⟩,
      ⟨4, "u", .string⟩], rfl⟩
    let ops : List PageOperation := [.set 4 (.string "é"), .set 1 (.long 7), .set 3 (.string "x")]
    let w := ((PageSession.start s (.ofPageSize 64)).run ops).2.writer
    w.staged = [.null, .long 7, .null, .content 2 1, .content 0 2] ∧
      s.slotRanges = [⟨5, 1⟩, ⟨6, 8⟩, ⟨14, 12⟩, ⟨26, 8⟩, ⟨34, 8⟩] ∧
        s.contentRanges w.staged 100 = [⟨142, 0⟩, ⟨142, 0⟩, ⟨142, 0⟩, ⟨142, 1⟩, ⟨143, 2⟩] ∧
          s.IsStaged w.staged w.scratch ∧ s.Encodes w.staged w.scratch 100 := by
  intro s ops w
  have values : w.staged = [.null, .long 7, .null, .content 2 1, .content 0 2] := rfl
  obtain ⟨-, encodes, staged⟩ := record_layout_is_a_partition.2 s
  refine ⟨values, by decide, ?_, staged _ ops, encodes _ _ (staged _ ops) 100⟩
  rw [values]
  decide

end BulkTransfer
