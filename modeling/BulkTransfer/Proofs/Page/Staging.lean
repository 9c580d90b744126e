import BulkTransfer.Proofs.Page.RowReader
/-!
# Staged rows

What a writer has staged stands for a row of cells: contents are in the scratch bytes, where those
of overwritten values stay behind. Only the ranges of the values that count are ever copied, so the
record a writer encodes is the row.
-/
namespace BulkTransfer

namespace Staged

/-- The value stands for the cell, given the scratch bytes. -/
def Represents (scratch : Array UInt8) (v : Staged) : Cell → Prop
  | .null => v = .null
  | .boolean b => v = .boolean b
  | .long n => v = .long n
  | .double x => v = .double x
  | .timestamp i => v = .timestamp i
  | cell => ∃ start, v = .content start cell.content.length ∧ StandsAt scratch start cell.content

variable {scratch : Array UInt8} {v : Staged} {cell : Cell}

theorem Represents.grown (h : v.Represents scratch cell) (more : List UInt8) :
    v.Represents (scratch ++ more) cell := by
  cases cell with
  | string s | json tree =>
    obtain ⟨start, value, stands⟩ := h
    exact ⟨start, value, stands.grown more⟩
  | null | boolean b | long n | double x | timestamp i => exact h

theorem Represents.isNull_eq (h : v.Represents scratch cell) : v.isNull = cell.isNull := by
  cases cell with
  | string s | json tree => obtain ⟨start, rfl, -⟩ := h; rfl
  | null | boolean b | long n | double x | timestamp i => cases h; rfl

theorem Represents.contentSize_eq (h : v.Represents scratch cell) :
    v.contentSize = cell.content.length := by
  cases cell with
  | string s | json tree => obtain ⟨start, rfl, -⟩ := h; rfl
  | null | boolean b | long n | double x | timestamp i => cases h; rfl

theorem Represents.slot_eq (h : v.Represents scratch cell) (width place : Nat) :
    v.slot width place = cell.slot width place := by
  cases cell with
  | string s | json tree => obtain ⟨start, rfl, -⟩ := h; rfl
  | null | boolean b | long n | double x | timestamp i => cases h; rfl

theorem contentIn_of_standsAt {start : Nat} {bytes : List UInt8}
    (h : StandsAt scratch start bytes) : (content start bytes.length).contentIn scratch = bytes := by
  have slice := h.slice
  rw [slice?, if_pos h.bound] at slice
  exact Option.some.inj slice

theorem Represents.contentIn_eq (h : v.Represents scratch cell) :
    v.contentIn scratch = cell.content := by
  cases cell with
  | string s | json tree =>
    obtain ⟨start, rfl, stands⟩ := h
    exact contentIn_of_standsAt stands
  | null | boolean b | long n | double x | timestamp i => cases h; rfl

end Staged

theorem standsAt_end (data : Array UInt8) (bytes : List UInt8) :
    StandsAt (data ++ bytes) data.size bytes :=
  ⟨data.toList, [], by simp, by simp⟩

/-- A cell is staged behind the scratch bytes and leaves them as they are. -/
theorem Cell.stage_spec (scratch : Array UInt8) (cell : Cell) :
    ∃ more : List UInt8, (cell.stage scratch).2 = scratch ++ more ∧
      (cell.stage scratch).1.Represents (scratch ++ more) cell := by
  cases cell with
  | string s | json tree => exact ⟨_, rfl, _, rfl, standsAt_end _ _⟩
  | null | boolean b | long n | double x | timestamp i => exact ⟨[], by simp [stage], rfl⟩

/-- The staged values stand for a row. -/
abbrev RepresentsRow (scratch : Array UInt8) (values : List Staged) (cells : List Cell) : Prop :=
  List.Forall₂ (fun v cell => Staged.Represents scratch v cell) values cells

namespace RepresentsRow

variable {scratch : Array UInt8} {values : List Staged} {cells : List Cell}

theorem grown (h : RepresentsRow scratch values cells) (more : List UInt8) :
    RepresentsRow (scratch ++ more) values cells :=
  h.imp fun _ _ hv => hv.grown more

theorem contents_eq (h : RepresentsRow scratch values cells) :
    values.flatMap (·.contentIn scratch) = cells.flatMap Cell.content := by
  induction h with
  | nil => rfl
  | cons hv _ ih => rw [List.flatMap_cons, List.flatMap_cons, hv.contentIn_eq, ih]

theorem nulls_eq (h : RepresentsRow scratch values cells) :
    values.map Staged.isNull = cells.map Cell.isNull := by
  induction h with
  | nil => rfl
  | cons hv _ ih => rw [List.map_cons, List.map_cons, hv.isNull_eq, ih]

theorem contentPlace_eq (h : RepresentsRow scratch values cells) (place : Nat) :
    values.foldl (fun size v => size + v.contentSize) place = contentPlace place cells := by
  induction h generalizing place with
  | nil => rfl
  | cons hv _ ih => rw [List.foldl_cons, hv.contentSize_eq, ih]; rfl

theorem slots_eq (h : RepresentsRow scratch values cells) (columns : List Column) (place : Nat) :
    Schema.slots (columns.map fun c => c.type.slotSize) values place =
      Schema.rowSlots columns cells place := by
  induction h generalizing columns place with
  | nil => cases columns <;> rfl
  | cons hv _ ih =>
    cases columns with
    | nil => rfl
    | cons c columns =>
      rw [List.map_cons, Schema.slots, hv.slot_eq, hv.contentSize_eq, ih]
      rfl

theorem recordSize_eq (h : RepresentsRow scratch values cells) (s : Schema) :
    s.recordSize values = s.rowSize cells := h.contentPlace_eq s.fixedSize

/-- The record that is encoded from staged values is the row they stand for. -/
theorem encodeRecord_eq (h : RepresentsRow scratch values cells) (s : Schema) (base : Nat) :
    s.encodeRecord values scratch base = s.rowBytes cells base := by
  rw [Schema.encodeRecord, h.recordSize_eq, h.nulls_eq, Schema.slotWidths, h.slots_eq,
    h.contents_eq, Schema.rowBytes, List.append_assoc, List.append_assoc]

end RepresentsRow

/-- The row in which every cell is null. -/
def Schema.nullRow (s : Schema) : List Cell := List.replicate s.size .null

theorem Schema.nullRow_fits (s : Schema) : s.Fits s.nullRow := by
  rw [Schema.Fits, List.forall₂_iff_get]
  refine ⟨by simp [Schema.nullRow, Schema.size], ?_⟩
  intro i hi hj
  have : (s.nullRow).get ⟨i, hj⟩ = .null := List.getElem_replicate ..
  rw [this]
  intro t ht
  cases ht

theorem blank_represents (s : Schema) (scratch : Array UInt8) :
    RepresentsRow scratch (PageWriter.blank s) s.nullRow := by
  rw [PageWriter.blank, Schema.nullRow]
  induction s.size with
  | zero => exact .nil
  | succ n ih => exact .cons rfl ih

theorem forall₂_set {α β : Type} {P : α → β → Prop} {as : List α} {bs : List β}
    (h : List.Forall₂ P as bs) (i : Nat) {a : α} {b : β} (hab : P a b) :
    List.Forall₂ P (as.set i a) (bs.set i b) := by
  induction h generalizing i with
  | nil => exact .nil
  | cons hp ht ih =>
    cases i with
    | zero => exact .cons hab ht
    | succ i => exact .cons hp (ih i)

/-- One side may stay when its own member suits the new one. -/
theorem forall₂_set_right {α β : Type} {P : α → β → Prop} {as : List α} {bs : List β}
    (h : List.Forall₂ P as bs) {i : Nat} {a : α} {b : β} (ha : as[i]? = some a) (hab : P a b) :
    List.Forall₂ P as (bs.set i b) := by
  have kept : as.set i a = as := by
    obtain ⟨hi, rfl⟩ := List.getElem?_eq_some_iff.mp ha
    exact List.set_getElem_self hi
  rw [← kept]
  exact forall₂_set h i hab

end BulkTransfer
