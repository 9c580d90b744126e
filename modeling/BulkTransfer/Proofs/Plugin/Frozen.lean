import BulkTransfer.Plugin.BuiltIn
import BulkTransfer.Plugin.FileBased
import BulkTransfer.Record.Rename
import Mathlib
/-!
# Frozen tasks

What the built-in plugins freeze is read back as it was, by their tasks and by a resumed transaction.
-/
namespace BulkTransfer

/-- Items that are read back one by one are read back as a list. -/
theorem Decoder.list_map_of_mem {α : Type} {item : Decoder α} {view : α → Tree} {items : List α}
    (h : ∀ a ∈ items, item (view a) = .ok a) :
    Decoder.list item (.arr (items.map view)) = .ok items := by
  rw [Decoder.list]
  induction items with
  | nil => rfl
  | cons a items ih =>
    rw [List.map_cons, List.mapM_cons, h a List.mem_cons_self,
      ih fun b mem => h b (List.mem_cons_of_mem a mem)]
    rfl

theorem Decoder.list_map {α : Type} {item : Decoder α} {view : α → Tree}
    (h : ∀ a, item (view a) = .ok a) (items : List α) :
    Decoder.list item (.arr (items.map view)) = .ok items :=
  Decoder.list_map_of_mem fun a _ => h a

/-- A table that was read is in the order of its keys. -/
theorem Decoder.table_sorted {α : Type} {value : Decoder α} {tree : Tree}
    {pairs : List (String × α)} (h : Decoder.table value tree = .ok pairs) :
    pairs.Pairwise fun a b => decide (a.1 ≤ b.1) = true := by
  unfold Decoder.table at h
  split at h
  · simp only [bind, Except.bind] at h
    split at h
    · cases h
    · cases h
      refine List.pairwise_mergeSort ?_ ?_ _
      · intro a b c first second
        exact decide_eq_true (String.le_trans (of_decide_eq_true first) (of_decide_eq_true second))
      · intro a b
        rcases String.le_total a.1 b.1 with le | le <;> simp [le]
  · cases h

/-- A table in the order of its keys is read back. -/
theorem Decoder.table_map {α : Type} {value : Decoder α} {view : α → Tree}
    (h : ∀ a, value (view a) = .ok a) {pairs : List (String × α)}
    (sorted : pairs.Pairwise fun a b => decide (a.1 ≤ b.1) = true) :
    Decoder.table value (.obj (pairs.map fun pair => (pair.1, view pair.2))) = .ok pairs := by
  have all : (pairs.map fun pair => (pair.1, view pair.2)).mapM
      (fun entry => (value entry.2).map (entry.1, ·)) = .ok pairs := by
    clear sorted
    induction pairs with
    | nil => rfl
    | cons pair pairs ih =>
      rw [List.map_cons, List.mapM_cons, ih]
      simp only [h]
      rfl
  simp only [Decoder.table, all, bind, Except.bind]
  rw [List.mergeSort_of_pairwise sorted]

/-- So is one that may be left out. -/
theorem Decoder.table_field_sorted {α : Type} {value : Decoder α} {found : Entries} {name : String}
    {pairs : List (String × α)}
    (h : Decoder.field found name (Decoder.table value) (.ok []) = .ok pairs) :
    pairs.Pairwise fun a b => decide (a.1 ≤ b.1) = true := by
  unfold Decoder.field at h
  split at h
  · exact Decoder.table_sorted h
  · cases h
    exact .nil

/-- What a config is loaded as was read from the reviewed entries. -/
theorem Document.load_decoded {α : Type} {source : Document} {shape : Shape α} {a : α}
    (h : source.load shape = .ok a) : ∃ coerced, shape.decode (.obj coerced) = .ok a := by
  unfold Document.load at h
  dsimp only at h
  split at h
  · split at h
    · rename_i decoded
      cases h
      exact ⟨_, decoded⟩
    · cases h
  · cases h

theorem Decoder.optional_string (text : Option String) :
    Decoder.optional Decoder.string (text.elim .null .str) = .ok text := by
  cases text <;> rfl

theorem ColumnType.decode_toTree (t : ColumnType) : decode t.toTree = .ok t := by
  cases t <;> rfl

theorem Newline.decode_toTree (n : Newline) : decode n.toTree = .ok n := by
  cases n <;> rfl

theorem ColumnChoice.decode_toTree (c : ColumnChoice) : decode c.toTree = .ok c := by
  obtain ⟨name, type, format⟩ := c
  cases format <;> cases type <;> rfl

theorem LocalOutput.Naming.loadTask_toTask (n : Naming) : n.toTask.loadTask decode = .ok n := rfl

theorem LocalInput.Files.ofTask_toTask (f : Files) : ofTask f.toTask = .ok f := by
  have names := @Decoder.list_map String Decoder.string Tree.str (fun _ => rfl) f.files
  have last := Decoder.optional_string f.lastPath
  simp [ofTask, toTask, Document.loadTask, Document.toTree, decode, fields, Decoder.record,
    RecordField.required, RecordField.nullable, RecordField.ofDecoder, strings, names, last,
    Decoder.field, Entries.get?, List.lookup, bind, Except.bind, pure, Except.pure, Except.map,
    Attempt.ofConfig, Except.mapError]

theorem Ltsv.Options.loadTask_toTask (o : Options) : o.toTask.loadTask decode = .ok o := by
  have columns : ColumnList.decode o.columns.toTree = .ok o.columns :=
    Decoder.list_map ColumnChoice.decode_toTree o.columns
  have null : nullText? (o.nullText.elim .null .str) = .ok o.nullText :=
    Decoder.optional_string o.nullText
  simp [toTask, Document.loadTask, Document.toTree, decode, fields, Decoder.record,
    RecordField.required, RecordField.defaulted, RecordField.ofDecoder, columns, null,
    Newline.decode_toTree, Decoder.bool, Decoder.field, Entries.get?, List.lookup, bind, Except.bind,
    pure, Except.pure, Except.map]

namespace Csv

theorem ColumnOption.decode_toTree (o : ColumnOption) : decode o.toTree = .ok o := by
  obtain ⟨format⟩ := o
  cases format <;> rfl

namespace Options

/-- The options of columns are in the order of their names. -/
def IsSorted (o : Options) : Prop :=
  o.columnOptions.Pairwise fun a b => decide (a.1 ≤ b.1) = true

theorem decode_sorted {tree : Tree} {o : Options} (h : decode tree = .ok o) : o.IsSorted := by
  simp only [decode, bind, Except.bind] at h
  iterate 5
    split at h
    · cases h
  split at h
  · cases h
  · rename_i table found
    cases h
    exact Decoder.table_field_sorted found

theorem loadTask_toTask {o : Options} (sorted : o.IsSorted) : o.toTask.loadTask decode = .ok o := by
  have table : columnTable (.obj (o.columnOptions.map fun entry => (entry.1, entry.2.toTree))) =
      .ok o.columnOptions :=
    Decoder.table_map ColumnOption.decode_toTree sorted
  have newline := Newline.decode_toTree o.newline
  simp [toTask, Document.loadTask, Document.toTree, decode, fields, Decoder.record,
    RecordField.defaulted, RecordField.ofDecoder, table, newline, Decoder.string,
    Decoder.bool, Decoder.field, Entries.get?, List.lookup, bind, Except.bind, pure, Except.pure,
    Except.map]

end Options

end Csv

namespace Rename.Options

/-- The new names are in the order of the old ones. -/
def IsSorted (o : Options) : Prop := o.columns.Pairwise fun a b => decide (a.1 ≤ b.1) = true

theorem decode_sorted {tree : Tree} {o : Options} (h : decode tree = .ok o) : o.IsSorted := by
  simp only [decode, bind, Except.bind] at h
  split at h
  · cases h
  split at h
  · cases h
  · rename_i table found
    cases h
    exact Decoder.table_field_sorted found

theorem decode_toTask {o : Options} (sorted : o.IsSorted) : decode o.toTask.toTree = .ok o := by
  have table : names (.obj (o.columns.map fun entry => (entry.1, .str entry.2))) = .ok o.columns :=
    @Decoder.table_map String Decoder.string Tree.str (fun _ => rfl) o.columns sorted
  simp [toTask, Document.toTree, decode, Decoder.record, RecordField.defaulted, RecordField.ofDecoder,
    table, Decoder.field, Entries.get?, List.lookup, bind, Except.bind, pure, Except.pure, Except.map]

theorem loadTask_toTask {o : Options} (sorted : o.IsSorted) : o.toTask.loadTask decode = .ok o := by
  rw [Document.loadTask, decode_toTask sorted]

/-- What is frozen means the same as a config. -/
theorem load_toTask {o : Options} (sorted : o.IsSorted) : o.toTask.load shape = .ok o := by
  have reviewed : o.toTask.reviewAll shape.settings = ([], o.toTask.entries) := by rfl
  have decoded : shape.decode (.obj o.toTask.entries) = .ok o := decode_toTask sorted
  rw [Document.load, reviewed]
  simp only [List.isEmpty_nil, if_true, decoded]

end Rename.Options

section FileBased

theorem documents_docs (ds : List Document) : documents (docs ds) = .ok ds := by
  have read : ∀ d : Document, Document.decode d.toTree = .ok d := fun _ => rfl
  exact Decoder.list_map read ds

/-- The parts of a file-based input are read back from its task. -/
theorem FileBasedInputTask.ofTask_toTask (t : FileBasedInputTask) : ofTask t.toTask = .ok t := by
  have read : ∀ d : Document, Document.decode (.obj d.entries) = .ok d := fun _ => rfl
  simp [ofTask, toTask, Document.loadTask, decode, fields, Decoder.record,
    RecordField.required, RecordField.nullable, RecordField.ofDecoder, documents_docs, read,
    Decoder.field, Entries.get?, List.lookup, bind, Except.bind, pure, Except.pure, Except.map,
    Attempt.ofConfig, Except.mapError, Document.toTree]

/-- The parts of a file-based output are read back from its task. -/
theorem FileBasedOutputTask.ofTask_toTask (t : FileBasedOutputTask) : ofTask t.toTask = .ok t := by
  have read : ∀ d : Document, Document.decode (.obj d.entries) = .ok d := fun _ => rfl
  simp [ofTask, toTask, Document.loadTask, decode, fields, Decoder.record,
    RecordField.required, RecordField.nullable, RecordField.ofDecoder, documents_docs, read,
    Decoder.field, Entries.get?, List.lookup, bind, Except.bind, pure, Except.pure, Except.map,
    Attempt.ofConfig, Except.mapError, Document.toTree]

end FileBased

end BulkTransfer
