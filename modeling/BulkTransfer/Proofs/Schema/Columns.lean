import BulkTransfer.Page.Layout
import BulkTransfer.Schema.ColumnList
import Mathlib.Data.List.Induction
import Mathlib.Data.List.Nodup
/-!
# Columns by place and by type

The columns of a schema are numbered by their places. Schemas that differ in nothing but names have
the same layout, and renaming leads from one to another. Every way to a schema gives the same answer to
the same columns: their schema if they are valid, and else the first column that breaks the rule, its
index being looked at before its name.
-/
namespace BulkTransfer

theorem columnFault_index {expected : Nat} {seen : List String} {columns : List Column}
    (h : columnFault expected seen columns = none) {i : Nat} {c : Column}
    (hc : columns[i]? = some c) : c.index = expected + i := by
  induction columns generalizing expected seen i with
  | nil => simp at hc
  | cons first rest ih =>
    rw [columnFault] at h
    split at h
    · cases h
    · rename_i index
      split at h
      · cases h
      · cases i with
        | zero =>
          rw [List.getElem?_cons_zero, Option.some.injEq] at hc
          rw [← hc, Nat.add_zero]
          exact Decidable.not_not.mp index
        | succ i =>
          rw [ih h hc]
          omega

namespace Schema

theorem index_eq (s : Schema) {i : Nat} {c : Column} (hc : s.columns[i]? = some c) :
    c.index = i := by
  rw [columnFault_index s.sound hc, Nat.zero_add]

/-- The schemas differ in nothing but names. -/
def SameTypes (s t : Schema) : Prop := s.columns.map Column.type = t.columns.map Column.type

namespace SameTypes

variable {s t u : Schema}

theorem refl (s : Schema) : s.SameTypes s := rfl

theorem trans (h : s.SameTypes t) (h' : t.SameTypes u) : s.SameTypes u := Eq.trans h h'

theorem slotWidths (h : s.SameTypes t) : s.slotWidths = t.slotWidths := by
  have widths := congrArg (List.map ColumnType.slotSize) h
  rwa [List.map_map, List.map_map] at widths

theorem size (h : s.SameTypes t) : s.size = t.size := by
  have lengths := congrArg List.length h
  rwa [List.length_map, List.length_map] at lengths

theorem fixedSize (h : s.SameTypes t) : s.fixedSize = t.fixedSize := by
  rw [Schema.fixedSize, Schema.fixedSize, slotsStart, slotsStart, bitmapSize, bitmapSize,
    h.slotWidths, h.size]

end SameTypes

theorem make_columns {columns : List Column} {s : Schema} (h : make columns = .ok s) :
    s.columns = columns := by
  unfold make at h
  split at h
  · cases h
    rfl
  · cases h

theorem rename_sameTypes {s t : Schema} {newName : String → Option String}
    (h : s.rename newName = .ok t) : s.SameTypes t := by
  rw [SameTypes, make_columns h, List.map_map]
  rfl

/-- The indices count from zero, and no two names are alike. -/
structure Valid (columns : List Column) : Prop where
  dense : columns.map Column.index = List.range columns.length
  distinct : (columns.map Column.name).Nodup

/-- What is wrong with the first column that cannot stand behind those before it. -/
inductive FirstOffence (columns : List Column) : SchemaError → Prop where
  | index {before after : List Column} {c : Column} (parts : columns = before ++ c :: after)
      (valid : Valid before) (offends : c.index ≠ before.length) :
      FirstOffence columns (.nonDenseIndex before.length c.index)
  | name {before after : List Column} {c : Column} (parts : columns = before ++ c :: after)
      (valid : Valid before) (dense : c.index = before.length)
      (offends : c.name ∈ before.map Column.name) : FirstOffence columns (.duplicateColumn c.name)

variable {columns before rest : List Column} {c : Column} {fault : SchemaError}

theorem valid_nil : Valid [] := ⟨rfl, .nil⟩

theorem valid_concat : Valid (before ++ [c]) ↔
    Valid before ∧ c.index = before.length ∧ c.name ∉ before.map Column.name := by
  have dense : (before ++ [c]).map Column.index = List.range (before ++ [c]).length ↔
      before.map Column.index = List.range before.length ∧ c.index = before.length := by
    rw [List.map_append, List.length_append, List.length_singleton, List.range_succ]
    exact List.append_singleton_inj
  have distinct : ((before ++ [c]).map Column.name).Nodup ↔
      (before.map Column.name).Nodup ∧ c.name ∉ before.map Column.name := by
    rw [List.map_append, List.map_singleton, ← List.concat_eq_append, List.nodup_concat]
    exact and_comm
  constructor
  · rintro ⟨h, h'⟩
    obtain ⟨indices, here⟩ := dense.mp h
    obtain ⟨names, new⟩ := distinct.mp h'
    exact ⟨⟨indices, names⟩, here, new⟩
  · rintro ⟨⟨indices, names⟩, here, new⟩
    exact ⟨dense.mpr ⟨indices, here⟩, distinct.mpr ⟨names, new⟩⟩

/-- Columns are valid, or one of them is the first that is not. -/
theorem valid_or_offends (columns : List Column) :
    Valid columns ∨ ∃ fault, FirstOffence columns fault := by
  induction columns using List.reverseRecOn with
  | nil => exact .inl valid_nil
  | append_singleton before c ih =>
    rcases ih with valid | ⟨fault, offence⟩
    · by_cases dense : c.index = before.length
      · by_cases known : c.name ∈ before.map Column.name
        · exact .inr ⟨_, .name rfl valid dense known⟩
        · exact .inl (valid_concat.mpr ⟨valid, dense, known⟩)
      · exact .inr ⟨_, .index rfl valid dense⟩
    · -- what was wrong before the last column is still the first offence
      cases offence with
      | index parts valid offends =>
        exact .inr ⟨_, .index (by rw [parts, List.append_assoc]; rfl) valid offends⟩
      | name parts valid dense offends =>
        exact .inr ⟨_, .name (by rw [parts, List.append_assoc]; rfl) valid dense offends⟩

/-- Valid columns are passed over. -/
theorem columnFault_behind (valid : Valid before) (rest : List Column) :
    columnFault 0 [] (before ++ rest) =
      columnFault before.length (before.map Column.name).reverse rest := by
  induction before using List.reverseRecOn generalizing rest with
  | nil => rfl
  | append_singleton before c ih =>
    obtain ⟨valid, dense, new⟩ := valid_concat.mp valid
    rw [List.append_assoc, ih valid, List.singleton_append, columnFault, if_neg (not_not_intro dense),
      if_neg (by rwa [List.mem_reverse])]
    simp

theorem columnFault_valid (valid : Valid columns) : columnFault 0 [] columns = none := by
  have passed := columnFault_behind valid []
  rwa [List.append_nil] at passed

theorem FirstOffence.columnFault_eq (h : FirstOffence columns fault) :
    columnFault 0 [] columns = some fault := by
  cases h with
  | index parts valid offends =>
    rw [parts, columnFault_behind valid, columnFault, if_pos offends]
  | name parts valid dense offends =>
    rw [parts, columnFault_behind valid, columnFault, if_neg (not_not_intro dense),
      if_pos (List.mem_reverse.mpr offends)]

theorem columnFault_eq_none : columnFault 0 [] columns = none ↔ Valid columns := by
  constructor
  · intro none
    refine (valid_or_offends columns).resolve_right fun ⟨fault, offence⟩ => ?_
    cases none.symm.trans offence.columnFault_eq
  · exact columnFault_valid

theorem columnFault_eq_some : columnFault 0 [] columns = some fault ↔ FirstOffence columns fault := by
  constructor
  · intro some
    rcases valid_or_offends columns with valid | ⟨fault', offence⟩
    · cases some.symm.trans (columnFault_valid valid)
    · cases some.symm.trans offence.columnFault_eq
      exact offence
  · exact FirstOffence.columnFault_eq

theorem valid (s : Schema) : Valid s.columns := columnFault_eq_none.mp s.sound

theorem FirstOffence.not_valid (h : FirstOffence columns fault) : ¬ Valid columns := fun valid => by
  cases h.columnFault_eq.symm.trans (columnFault_valid valid)

theorem FirstOffence.unique {fault' : SchemaError} (h : FirstOffence columns fault)
    (h' : FirstOffence columns fault') : fault = fault' :=
  Option.some.inj (h.columnFault_eq.symm.trans h'.columnFault_eq)

/-- This is the answer to these columns: their schema if they are valid, or else what is wrong with
the first of them that is not. -/
structure Answers {ε : Type} (told : SchemaError → ε) (columns : List Column)
    (answer : Except ε Schema) : Prop where
  accepts : (∃ s, answer = .ok s) ↔ Valid columns
  keeps : ∀ s, answer = .ok s → s.columns = columns
  objects : ∀ e, answer = .error e ↔ ∃ fault, FirstOffence columns fault ∧ e = told fault

section Answers

variable {ε : Type} {told : SchemaError → ε}

theorem Answers.ofValid {s : Schema} (valid : Valid columns) (keeps : s.columns = columns) :
    Answers told columns (.ok s) where
  accepts := iff_of_true ⟨s, rfl⟩ valid
  keeps := fun _ same => Except.ok.inj same ▸ keeps
  objects := fun _ => iff_of_false (fun h => by cases h) fun ⟨_, offence, _⟩ =>
    offence.not_valid valid

theorem Answers.ofOffence (told : SchemaError → ε) (offence : FirstOffence columns fault) :
    Answers told columns (.error (told fault)) where
  accepts := iff_of_false (fun ⟨_, h⟩ => by cases h) offence.not_valid
  keeps := fun _ h => by cases h
  objects := fun e => by
    constructor
    · rintro ⟨⟩
      exact ⟨fault, offence, rfl⟩
    · rintro ⟨fault', offence', rfl⟩
      rw [offence.unique offence']

theorem Answers.fails_iff {answer : Except ε Schema} (h : Answers told columns answer) :
    (∃ e, answer = .error e) ↔ ¬ Valid columns := by
  rw [← h.accepts]
  cases answer with
  | ok s => exact iff_of_false (fun ⟨_, h⟩ => by cases h) (not_not_intro ⟨s, rfl⟩)
  | error e => exact iff_of_true ⟨e, rfl⟩ fun ⟨_, h⟩ => by cases h

theorem make_answers (columns : List Column) : Answers id columns (make columns) := by
  unfold make
  split
  · rename_i none
    exact .ofValid (columnFault_eq_none.mp none) rfl
  · rename_i fault some
    exact .ofOffence id (columnFault_eq_some.mp some)

/-- Names and types, numbered from zero. -/
def numbered (named : List (String × ColumnType)) : List Column :=
  named.zipIdx.map fun ((name, type), i) => ⟨i, name, type⟩

theorem ofNames_answers (named : List (String × ColumnType)) :
    Answers id (numbered named) (ofNames named) := make_answers (numbered named)

/-- Numbered columns are valid when their names are distinct. -/
theorem valid_numbered (named : List (String × ColumnType)) :
    Valid (numbered named) ↔ (named.map Prod.fst).Nodup := by
  have dense : (numbered named).map Column.index = List.range (numbered named).length := by
    rw [numbered, List.map_map, List.length_map, List.length_zipIdx, List.range_eq_range']
    exact List.zipIdx_map_snd 0 named
  have names : (numbered named).map Column.name = named.map Prod.fst := by
    conv_rhs => rw [← List.zipIdx_map_fst 0 named]
    rw [numbered, List.map_map, List.map_map]
    rfl
  rw [← names]
  exact ⟨Valid.distinct, fun distinct => ⟨dense, distinct⟩⟩

/-- Columns of any types in any order make up a schema. -/
theorem exists_ofTypes (types : List ColumnType) : ∃ s : Schema, s.columns.map Column.type = types := by
  -- names of different lengths are distinct
  let name (i : Nat) : String := String.ofList (List.replicate i 'c')
  let named := types.zipIdx.map fun (type, i) => (name i, type)
  have distinct : (named.map Prod.fst).Nodup := by
    have names : named.map Prod.fst = (types.zipIdx.map Prod.snd).map name := by
      rw [List.map_map, List.map_map]
      rfl
    rw [names, List.zipIdx_map_snd]
    refine List.Nodup.map (fun i j same => ?_) (List.nodup_range' ..)
    simpa using congrArg List.length (String.ofList_injective same)
  refine ⟨⟨numbered named, columnFault_valid ((valid_numbered named).mpr distinct)⟩, ?_⟩
  have kept : (numbered named).map Column.type = named.map Prod.snd := by
    conv_rhs => rw [← List.zipIdx_map_fst 0 named]
    rw [numbered, List.map_map, List.map_map]
    rfl
  have typed : named.map Prod.snd = types.zipIdx.map Prod.fst := by
    rw [List.map_map]
    rfl
  rw [kept, typed, List.zipIdx_map_fst]

/-- Columns that can be read from a tree are answered as any others. -/
theorem decode_answers {tree : Tree} (read : Decoder.list Column.decode tree = .ok columns) :
    Answers (fun fault => .refused fault.message) columns (decode tree) := by
  obtain ⟨accepts, keeps, objects⟩ := make_answers columns
  cases made : make columns with
  | ok s =>
    have decoded : decode tree = .ok s := by simp only [decode, read, bind, Except.bind, made]
    rw [decoded]
    exact .ofValid (accepts.mp ⟨s, made⟩) (keeps s made)
  | error fault =>
    have decoded : decode tree = .error (.refused fault.message) := by
      simp only [decode, read, bind, Except.bind, made]
    obtain ⟨_, offence, rfl⟩ := (objects fault).mp made
    rw [decoded]
    exact .ofOffence (fun fault => DecodeError.refused fault.message) offence

end Answers

end Schema

end BulkTransfer
