import BulkTransfer.Csv.Formatter
import BulkTransfer.Proofs.Page.RowReader
import BulkTransfer.Proofs.Schema.Columns
import Mathlib
/-!
# The text of rows

What a row is in a file of comma-separated records, said from its cells alone. Columns that were
renamed on the way have the types that the page was written with, and so the same cells.
-/
namespace BulkTransfer

namespace Schema

variable {s t : Schema}

theorem rowSlots_types {columns others : List Column}
    (h : columns.map Column.type = others.map Column.type) (cells : List Cell) (place : Nat) :
    rowSlots columns cells place = rowSlots others cells place := by
  induction columns generalizing others cells place with
  | nil =>
    obtain rfl : others = [] := List.map_eq_nil_iff.mp h.symm
    rfl
  | cons c columns ih =>
    cases others with
    | nil => cases h
    | cons other others =>
      rw [List.map_cons, List.map_cons, List.cons.injEq] at h
      cases cells with
      | nil => rfl
      | cons cell cells => rw [rowSlots, rowSlots, h.1, ih h.2]

theorem SameTypes.rowBytes (h : s.SameTypes t) (cells : List Cell) (base : Nat) :
    s.rowBytes cells base = t.rowBytes cells base := by
  rw [Schema.rowBytes, Schema.rowBytes, rowSize, rowSize, h.fixedSize, rowSlots_types h]

theorem SameTypes.rowsBytes (h : s.SameTypes t) (rows : List (List Cell)) (base : Nat) :
    s.rowsBytes rows base = t.rowsBytes rows base := by
  induction rows generalizing base with
  | nil => rfl
  | cons row rows ih =>
    rw [Schema.rowsBytes, Schema.rowsBytes, h.rowBytes, rowSize, rowSize, h.fixedSize, ih]

theorem fits_types {columns others : List Column}
    (h : columns.map Column.type = others.map Column.type) {cells : List Cell}
    (fits : List.Forall₂ (fun c cell => Cell.FitsType cell c.type) columns cells) :
    List.Forall₂ (fun c cell => Cell.FitsType cell c.type) others cells := by
  induction fits generalizing others with
  | nil =>
    obtain rfl : others = [] := List.map_eq_nil_iff.mp h.symm
    exact .nil
  | cons first _ ih =>
    cases others with
    | nil => cases h
    | cons other others =>
      rw [List.map_cons, List.map_cons, List.cons.injEq] at h
      exact .cons (h.1 ▸ first) (ih h.2)

end Schema

/-- A page is read as well with renamed columns. -/
theorem Page.IsOf.renamed {p : Page} {s t : Schema} {rows : List (List Cell)} (h : p.IsOf s rows)
    (types : s.SameTypes t) : p.IsOf t rows where
  bytes := h.bytes.trans (types.rowsBytes rows 0)
  count := h.count
  fits := fun row hr => Schema.fits_types types (h.fits row hr)
  bound := h.bound

theorem Page.IsOf.records_over {p : Page} {s : Schema} {rows : List (List Cell)} (h : p.IsOf s rows) :
    List.Forall₂ (fun r row => Record.IsOver r row ∧ r.schema = s) (p.records s) rows := by
  have stands : StandsAt p.bytes 0 (s.rowsBytes rows 0) := ⟨[], [], by simp [h.bytes], rfl⟩
  rw [records, h.count, List.forall₂_map_left_iff]
  exact (starts_over h.fits stands h.bound).imp fun _ _ isOver => ⟨isOver, rfl⟩

/-- The instant that is read back from a page. Other instants than those of the calendar are not. -/
def Instant.stored? (i : Instant) : Option Instant :=
  ofParts? (Int64.ofInt i.seconds).toInt (i.nanos % Nat.pow 256 4)

theorem Utf8.encode_append (a b : String) : encode (a ++ b) = encode a ++ encode b := by
  simp only [encode_eq, String.toList_append, List.flatMap_append]

namespace Csv

/-- The text of a cell. -/
def cellText (o : Options) (c : Column) : Cell → Attempt String
  | .null => .ok o.nullText
  | .boolean b => .ok (if b then "true" else "false")
  | .long n => .ok (toString n.toInt)
  | .double x => .ok (DoubleStyle.plain.write x)
  | .string s => .ok s
  | .json tree => .ok tree.compact
  | .timestamp i =>
    match i.stored? with
    | none => .error (.page (.timestampOutOfRange (Int64.ofInt i.seconds).toInt))
    | some i => (Timestamp.write i (o.formatOf c)).mapError fun fault => .invalidRecord fault.message

def rowFields (o : Options) (s : Schema) (row : List Cell) : Attempt (List String) :=
  (s.columns.zip row).mapM fun (c, cell) => cellText o c cell

def rowsText (o : Options) (d : Dialect) (s : Schema) (rows : List (List Cell)) : Attempt String := do
  return writeRecords d (← rows.mapM (rowFields o s))

def headerBytes (o : Options) (d : Dialect) (s : Schema) : Bytes :=
  if o.hasHeader then Utf8.encode (headerText d s) else []

/-- A file with these rows. -/
def fileBytes (o : Options) (d : Dialect) (s : Schema) (rows : List (List Cell)) : Attempt Bytes := do
  return headerBytes o d s ++ Utf8.encode (← rowsText o d s rows)

variable {o : Options} {d : Dialect} {s : Schema} {r : Record} {cells : List Cell} {c : Column}
  {cell : Cell}

theorem fieldText_null (h : r.IsOver cells) (hc : r.schema.columns[c.index]? = some c)
    (hv : cells[c.index]? = some .null) : fieldText o r c = .ok o.nullText := by
  have slot := h.slot?_null hv hc
  unfold fieldText
  cases kind : c.type <;> rw [kind] at slot <;>
    simp [Record.boolean?, Record.long?, Record.double?, Record.string?, Record.timestamp?,
      Record.jsonText?, Record.content?, slot, bind, Except.bind, pure, Except.pure,
      Attempt.ofPage, Except.mapError]

theorem kind_eq {t : ColumnType} (h : r.IsOver cells) (hc : r.schema.columns[c.index]? = some c)
    (hv : cells[c.index]? = some cell) (ht : cell.type? = some t) : c.type = t := by
  obtain ⟨other, place, kind, -⟩ := h.cell_typed hv ht
  rw [hc, Option.some.injEq] at place
  exact place ▸ kind

theorem fieldText_timestamp {i : Instant} (h : r.IsOver cells)
    (hc : r.schema.columns[c.index]? = some c) (hv : cells[c.index]? = some (.timestamp i)) :
    fieldText o r c = cellText o c (.timestamp i) := by
  have kind := kind_eq h hc hv (t := .timestamp) rfl
  have slot := h.slot?_eq hv hc rfl
  rw [kind] at slot
  have read : r.timestamp? c.index = i.stored?.elim
      (.error (.timestampOutOfRange (Int64.ofInt i.seconds).toInt)) (.ok ∘ some) := by
    simp only [Record.timestamp?, slot, Cell.slot, bind, Except.bind,
      List.take_left' (littleEndian_length 8 _), List.drop_left' (littleEndian_length 8 _),
      Record.IsOver.int64_littleEndian, ofLittleEndian_littleEndian, Instant.stored?]
    cases Instant.ofParts? _ _ <;> rfl
  unfold fieldText cellText
  simp only [kind, read]
  cases i.stored? with
  | none => rfl
  | some stored =>
    cases hw : Timestamp.write stored (o.formatOf c) with
    | error fault =>
      simp only [Option.elim, Function.comp_apply, bind, Except.bind, Attempt.ofPage, Except.mapError, hw]
      rfl
    | ok text =>
      simp only [Option.elim, Function.comp_apply, bind, Except.bind, Attempt.ofPage, Except.mapError, hw]
      rfl

/-- The text of a column of a record is that of the cell in it. -/
theorem fieldText_eq (h : r.IsOver cells) (hc : r.schema.columns[c.index]? = some c)
    (hv : cells[c.index]? = some cell) : fieldText o r c = cellText o c cell := by
  cases cell with
  | null => exact fieldText_null h hc hv
  | timestamp i => exact fieldText_timestamp h hc hv
  | boolean b =>
    simp only [fieldText, kind_eq h hc hv (t := .boolean) rfl, h.boolean?_eq hv]
    rfl
  | long n =>
    simp only [fieldText, kind_eq h hc hv (t := .long) rfl, h.long?_eq hv]
    rfl
  | double x =>
    simp only [fieldText, kind_eq h hc hv (t := .double) rfl, h.double?_eq hv]
    rfl
  | string text =>
    simp only [fieldText, kind_eq h hc hv (t := .string) rfl, h.string?_eq hv]
    rfl
  | json tree =>
    simp only [fieldText, kind_eq h hc hv (t := .json) rfl, h.jsonText?_eq hv]
    rfl

theorem mapM_zip {α β γ ε : Type} {f : α → Except ε γ} {g : α → β → Except ε γ} {as : List α}
    {bs : List β} (length : as.length = bs.length)
    (h : ∀ (i : Nat) (a : α) (b : β), as[i]? = some a → bs[i]? = some b → f a = g a b) :
    as.mapM f = (as.zip bs).mapM fun (a, b) => g a b := by
  induction as generalizing bs with
  | nil => simp
  | cons a as ih =>
    cases bs with
    | nil => cases length
    | cons b bs =>
      rw [List.zip_cons_cons, List.mapM_cons, List.mapM_cons, h 0 a b rfl rfl,
        ih (Nat.succ.inj length) fun i a b ha hb => h (i + 1) a b ha hb]

theorem mapM_forall₂ {α β γ ε : Type} {f : α → Except ε γ} {g : β → Except ε γ} {as : List α}
    {bs : List β} (h : List.Forall₂ (fun a b => f a = g b) as bs) : as.mapM f = bs.mapM g := by
  induction h with
  | nil => rfl
  | cons first _ ih => rw [List.mapM_cons, List.mapM_cons, first, ih]

theorem rowTexts_eq (h : r.IsOver cells) (schema : r.schema = s) :
    rowTexts o s r = rowFields o s cells := by
  subst schema
  refine mapM_zip h.fits.length_eq fun i c cell hc hv => ?_
  have index := r.schema.index_eq hc
  exact fieldText_eq h (index ▸ hc) (index ▸ hv)

/-- The text of a page is that of its rows, and so a page is written when its rows are. -/
theorem pageText_eq {page : Page} {rows : List (List Cell)} (h : page.IsOf s rows) :
    pageText o d s page = rowsText o d s rows := by
  have texts : (page.records s).mapM (rowTexts o s) = rows.mapM (rowFields o s) :=
    mapM_forall₂ (h.records_over.imp fun _ _ fits => rowTexts_eq fits.1 fits.2)
  rw [pageText, rowsText, texts]

theorem writeRecords_append (a b : List (List String)) :
    writeRecords d (a ++ b) = writeRecords d a ++ writeRecords d b := by
  rw [writeRecords, List.map_append, String.join_append]
  rfl

/-- The text of rows goes on with that of more rows. -/
theorem rowsText_append {rows new : List (List Cell)} {text more : String}
    (h : rowsText o d s rows = .ok text) (hm : rowsText o d s new = .ok more) :
    rowsText o d s (rows ++ new) = .ok (text ++ more) := by
  unfold rowsText at h hm ⊢
  rw [List.mapM_append]
  cases ha : rows.mapM (rowFields o s) with
  | error e => simp [ha, bind, Except.bind] at h
  | ok first =>
    cases hb : new.mapM (rowFields o s) with
    | error e => simp [hb, bind, Except.bind] at hm
    | ok second =>
      simp only [ha, hb, bind, Except.bind, pure, Except.pure, Except.ok.injEq] at h hm ⊢
      rw [writeRecords_append, h, hm]

theorem fileBytes_nil : fileBytes o d s [] = .ok (headerBytes o d s) := by
  have text : rowsText o d s [] = .ok "" := rfl
  have none : Utf8.encode "" = [] := by
    rw [Utf8.encode_eq]
    rfl
  simp only [fileBytes, text, none, bind, Except.bind, pure, Except.pure, List.append_nil]

theorem fileBytes_append {rows new : List (List Cell)} {bytes : Bytes} {more : String}
    (h : fileBytes o d s rows = .ok bytes) (hm : rowsText o d s new = .ok more) :
    fileBytes o d s (rows ++ new) = .ok (bytes ++ Utf8.encode more) := by
  unfold fileBytes at h ⊢
  cases ht : rowsText o d s rows with
  | error e => simp [ht, bind, Except.bind] at h
  | ok text =>
    simp only [ht, bind, Except.bind, pure, Except.pure, Except.ok.injEq] at h
    simp only [rowsText_append ht hm, bind, Except.bind, pure, Except.pure, Except.ok.injEq]
    rw [Utf8.encode_append, ← List.append_assoc, h]

/-- A file with rows and more rows has the bytes of the former before the text of the latter. -/
theorem fileBytes_parts {rows new : List (List Cell)} {bytes : Bytes}
    (h : fileBytes o d s (rows ++ new) = .ok bytes) : ∃ first text,
      fileBytes o d s rows = .ok first ∧ rowsText o d s new = .ok text ∧
        bytes = first ++ Utf8.encode text := by
  have told := h
  unfold fileBytes rowsText at told
  rw [List.mapM_append] at told
  cases ha : rows.mapM (rowFields o s) with
  | error e => simp [ha, bind, Except.bind] at told
  | ok fields =>
    cases hb : new.mapM (rowFields o s) with
    | error e => simp [ha, hb, bind, Except.bind] at told
    | ok more =>
      have first : fileBytes o d s rows =
          .ok (headerBytes o d s ++ Utf8.encode (writeRecords d fields)) := by
        rw [fileBytes, rowsText, ha]
        rfl
      have second : rowsText o d s new = .ok (writeRecords d more) := by
        rw [rowsText, hb]
        rfl
      have both := fileBytes_append first second
      exact ⟨_, _, first, second, Except.ok.inj (h.symm.trans both)⟩

end Csv

end BulkTransfer
