import BulkTransfer.Proofs.Ltsv.Telling
import BulkTransfer.Proofs.Plugin.Frozen
import BulkTransfer.Proofs.Plugin.Gathering
/-!
# The run of the parser

What labelled lines say is what a chain gets, whatever pieces the files come in: the parser hands over the
records file by file, no page with records of two files, up to the first line that is bad, and then gives
the error of that line. What was staged of a bad line is in no record.
-/
namespace BulkTransfer

namespace Ltsv

open BuilderRun Gathering

variable {o : Options} {σ : Type} {chain : PageChain σ} {I : World → Prop} {pageSize : Nat} {s : Schema}
  {groups : List (List (List Cell))} {rows : List (List Cell)} {b : PageBuilder}
  {t : σ × List SinkCall} {w : World}

/-- How a part of a file was read that holds these rows up to an error, if there is one: as it should, or
not to its end, since there was no room. -/
inductive Went (I : World → Prop) (pageSize : Nat) (s : Schema) (groups : List (List (List Cell)))
    (rows new : List (List Cell)) : Option PluginError → Attempt Unit → PageBuilder →
      σ × List SinkCall → World → Prop where
  | through {b : PageBuilder} {t : σ × List SinkCall} {w : World}
      (holds : Within I s groups (rows ++ new) s.nullRow b t w) :
      Went I pageSize s groups rows new none (.ok ()) b t w
  | stopped {e : PluginError} {row : List Cell} {b : PageBuilder} {t : σ × List SinkCall} {w : World}
      (holds : Within I s groups (rows ++ new) row b t w) :
      Went I pageSize s groups rows new (some e) (.error e) b t w
  | crowded {e : Option PluginError} {size : Nat} {taken : List (List Cell)} {row : List Cell}
      {b : PageBuilder} {t : σ × List SinkCall} {w : World} (part : taken <+: new)
      (full : ¬ s.HasRoom pageSize (rows ++ new)) (holds : Within I s groups (rows ++ taken) row b t w) :
      Went I pageSize s groups rows new e (.error (.page (.recordTooLarge size))) b t w

theorem Went.later {first new : List (List Cell)} {e : Option PluginError} {r : Attempt Unit}
    (h : Went I pageSize s groups (rows ++ first) new e r b t w) :
    Went I pageSize s groups rows (first ++ new) e r b t w := by
  cases h with
  | through holds => exact .through (List.append_assoc .. ▸ holds)
  | stopped holds => exact .stopped (List.append_assoc .. ▸ holds)
  | crowded part full holds =>
    refine .crowded ((List.prefix_append_right_inj first).mpr part) ?_ (List.append_assoc .. ▸ holds)
    rwa [← List.append_assoc]

theorem setCell_yields {row : List Cell} (h : Within I s groups rows row b t w) (fields : List Field)
    {c : Column} (place : s.columns[c.index]? = some c) :
    Yields chain.logged (do
        let cell ← Building.ofAttempt (columnCell o fields c)
        Building.set c.index cell
        pure (ForInStep.yield PUnit.unit)) b t w fun r b t w =>
      (∃ cell, columnCell o fields c = .ok cell ∧ r = .ok (.yield ⟨⟩) ∧
        Within I s groups rows (row.set c.index cell) b t w) ∨
          ∃ e, columnCell o fields c = .error e ∧ r = .error e ∧ Within I s groups rows row b t w := by
  refine Yields.attempt ?_ fun e bad => .inr ⟨e, bad, rfl, h⟩
  intro cell read
  have accepted : s.accepts c.index cell = true :=
    Schema.accepts_iff.mpr ⟨c, place, columnCell_fits read⟩
  refine Yields.bind (set_yields h accepted) ?_ ?_
  · rintro _ b t w ⟨-, next⟩
    exact Yields.pure (.inl ⟨cell, read, rfl, next⟩)
  · rintro e b t w ⟨failed, -⟩
    cases failed

/-- The cells of a line are staged column by column, up to the first that is bad. -/
theorem setCells_yields (fields : List Field) (columns : List Column) {done : List Column}
    {cells : List Cell} (split : s.columns = done ++ columns) (size : cells.length = done.length)
    (h : Within I s groups rows (cells ++ List.replicate columns.length .null) b t w) :
    Yields chain.logged (forIn columns PUnit.unit fun c _ => do
        let cell ← Building.ofAttempt (columnCell o fields c)
        Building.set c.index cell
        pure (ForInStep.yield PUnit.unit)) b t w fun r b t w =>
      (∃ more, columns.mapM (columnCell o fields) = .ok more ∧ r = .ok ⟨⟩ ∧
        Within I s groups rows (cells ++ more) b t w) ∨
          ∃ e row, columns.mapM (columnCell o fields) = .error e ∧ r = .error e ∧
            Within I s groups rows row b t w := by
  induction columns generalizing done cells b t w with
  | nil => exact .inl ⟨[], rfl, rfl, h⟩
  | cons c columns ih =>
    have place : s.columns[done.length]? = some c := by
      rw [split, List.getElem?_append_right (Nat.le_refl _), Nat.sub_self]
      rfl
    have index := s.index_eq place
    rw [List.forIn_cons]
    refine Yields.bind (setCell_yields h fields (index ▸ place)) ?_ ?_
    · rintro next b t w (⟨cell, read, same, staged⟩ | ⟨e, -, failed, -⟩)
      · obtain rfl := Except.ok.inj same
        have filled : (cells ++ List.replicate (c :: columns).length Cell.null).set c.index cell =
            (cells ++ [cell]) ++ List.replicate columns.length .null := by
          rw [index, ← size, List.set_append_right _ _ (Nat.le_refl _), Nat.sub_self, List.length_cons,
            List.replicate_succ, List.set_cons_zero, List.append_assoc, List.singleton_append]
        rw [filled] at staged
        have split : s.columns = done ++ [c] ++ columns := by
          rw [split, List.append_assoc, List.singleton_append]
        refine (ih split (by rw [List.length_append, List.length_append, size]; rfl) staged).mono ?_
        rintro r b t w (⟨more, all, same, holds⟩ | ⟨e, row, all, failed, holds⟩)
        · refine .inl ⟨cell :: more, ?_, same, by rwa [List.append_assoc] at holds⟩
          rw [List.mapM_cons, read, all]
          rfl
        · refine .inr ⟨e, row, ?_, failed, holds⟩
          rw [List.mapM_cons, read, all]
          rfl
      · cases failed
    · rintro e b t w (⟨_, _, same, _⟩ | ⟨e', bad, failed, holds⟩)
      · cases same
      · obtain rfl := Except.error.inj failed
        refine .inr ⟨e, _, ?_, rfl, holds⟩
        rw [List.mapM_cons, bad]
        rfl

theorem addLine_yields (k : chain.TakesAll I pageSize) (h : Within I s groups rows s.nullRow b t w)
    (line : String) :
    Yields chain.logged (addLine o s line) b t w fun r b t w =>
      (∃ cells, rowOf o s.columns line = .ok cells ∧ Went I pageSize s groups rows [cells] none r b t w) ∨
        ∃ e, rowOf o s.columns line = .error e ∧ Went I pageSize s groups rows [] (some e) r b t w := by
  refine Yields.attempt ?_ ?_
  · intro fields divided
    have row : rowOf o s.columns line = s.columns.mapM (columnCell o fields) := by
      rw [rowOf, divided]
      rfl
    -- A line starts with a row of nulls, since all cells of the one before it went with its record.
    have staged : Within I s groups rows ([] ++ List.replicate s.columns.length .null) b t w := h
    refine Yields.bind (setCells_yields fields s.columns (List.nil_append _).symm rfl staged) ?_ ?_
    · rintro _ b t w (⟨cells, all, -, holds⟩ | ⟨e, _, -, failed, -⟩)
      · refine (add_yields k holds).mono ?_
        rintro _ b t w (⟨rfl, holds⟩ | ⟨size, rfl, full, holds⟩)
        · exact .inl ⟨cells, row.trans all, .through holds⟩
        · rw [← List.append_nil rows] at holds
          exact .inl ⟨cells, row.trans all, .crowded List.nil_prefix full holds⟩
      · cases failed
    · rintro e b t w (⟨_, -, same, -⟩ | ⟨_, _, bad, failed, holds⟩)
      · cases same
      · obtain rfl := Except.error.inj failed
        exact .inr ⟨e, row.trans bad, .stopped ((List.append_nil rows).symm ▸ holds)⟩
  · intro e bad
    have row : rowOf o s.columns line = .error e := by
      rw [rowOf, bad]
      rfl
    exact .inr ⟨e, row, .stopped ((List.append_nil rows).symm ▸ h)⟩

/-- One turn over the lines of a file: it goes on with what is left, or ends here whatever is left. -/
theorem turn_yields (k : chain.TakesAll I pageSize) (h : Within I s groups rows s.nullRow b t w)
    (line : Attempt String) :
    Yields chain.logged (do
        let line ← Building.ofAttempt line
        if !line.isEmpty then do
            addLine o s line
            pure (ForInStep.yield PUnit.unit)
          else pure (ForInStep.yield PUnit.unit)) b t w fun r b t w =>
      (∃ new, (∀ lines, rowsUntil o s.columns (line :: lines) =
          (new ++ (rowsUntil o s.columns lines).1, (rowsUntil o s.columns lines).2)) ∧
        r = .ok (.yield ⟨⟩) ∧ Within I s groups (rows ++ new) s.nullRow b t w) ∨
      ∃ e, r = .error e ∧ ∀ lines, Went I pageSize s groups rows (rowsUntil o s.columns (line :: lines)).1
        (rowsUntil o s.columns (line :: lines)).2 (.error e) b t w := by
  refine Yields.attempt ?_ ?_
  · rintro text rfl
    by_cases blank : text.isEmpty
    · rw [if_neg (by rw [blank]; decide)]
      exact Yields.pure (.inl ⟨[], rowsUntil_blank o s.columns blank, rfl, (List.append_nil rows).symm ▸ h⟩)
    · rw [if_pos (by simpa using blank)]
      refine Yields.bind (addLine_yields k h text) ?_ ?_
      · rintro _ b t w (⟨cells, read, went⟩ | ⟨_, _, went⟩)
        · cases went with
          | through holds => exact Yields.pure (.inl ⟨[cells], rowsUntil_row blank read, rfl, holds⟩)
        · cases went
      · rintro e b t w (⟨cells, read, went⟩ | ⟨_, bad, went⟩)
        · cases went with
          | crowded part full holds =>
            refine .inr ⟨_, rfl, fun lines => ?_⟩
            rw [rowsUntil_row blank read]
            refine .crowded (part.trans (List.prefix_append [cells] _)) (fun room => full ?_) holds
            rw [← List.singleton_append, ← List.append_assoc] at room
            exact room.parts.1
        · refine .inr ⟨_, rfl, fun lines => ?_⟩
          rw [rowsUntil_bad blank bad]
          exact went
  · rintro e rfl
    exact .inr ⟨e, rfl, fun lines => .stopped ((List.append_nil rows).symm ▸ h)⟩

/-- Lines are read one after the other, up to the first that is bad. -/
theorem addLines_yields (k : chain.TakesAll I pageSize) (lines : List (Attempt String))
    (h : Within I s groups rows s.nullRow b t w) :
    Yields chain.logged (addLines o s lines) b t w
      (Went I pageSize s groups rows (rowsUntil o s.columns lines).1 (rowsUntil o s.columns lines).2) := by
  refine Yields.bind (Q := Went I pageSize s groups rows (rowsUntil o s.columns lines).1
    (rowsUntil o s.columns lines).2) ?_ (fun _ _ _ _ went => Yields.pure went) fun _ _ _ _ went => went
  induction lines generalizing rows b t w with
  | nil => exact .through ((List.append_nil rows).symm ▸ h)
  | cons line lines ih =>
    rw [List.forIn_cons]
    refine Yields.bind (turn_yields k h line) ?_ ?_
    · rintro _ b t w (⟨new, splits, same, holds⟩ | ⟨_, failed, -⟩)
      · obtain rfl := Except.ok.inj same
        refine (ih holds).mono fun _ _ _ _ went => ?_
        rw [splits]
        exact went.later
      · cases failed
    · rintro e b t w (⟨_, _, same, _⟩ | ⟨_, failed, ends⟩)
      · cases same
      · obtain rfl := Except.error.inj failed
        exact ends lines

/-- Opening a file gives these pieces, wherever it is opened. -/
def Supplies (I : World → Prop) (opening : Action (Attempt (List Poll))) (pieces : List Bytes) : Prop :=
  ∀ w, I w → (opening.run w).1 = .ok (pieces.map .ok) ∧ I (opening.run w).2

/-- How files were read that hold these rows up to an error, if there is one. -/
inductive Ended (I : World → Prop) (pageSize : Nat) (s : Schema) (groups new : List (List (List Cell)))
    (e : Option PluginError) : Attempt Unit → PageBuilder → σ × List SinkCall → World → Prop where
  | told {b : PageBuilder} {t : σ × List SinkCall} {w : World} (stands : Stands I s (groups ++ new) b t w) :
      Ended I pageSize s groups new e (e.elim (.ok ()) .error) b t w
  | crowded {size : Nat} {got : List (List (List Cell))} {b : PageBuilder} {t : σ × List SinkCall}
      {w : World} (part : got.flatten <+: new.flatten) (full : ¬ s.HasRoom pageSize new.flatten)
      (stands : Stands I s (groups ++ got) b t w) :
      Ended I pageSize s groups new e (.error (.page (.recordTooLarge size))) b t w

theorem Ended.later {first : List (List Cell)} {new : List (List (List Cell))} {e : Option PluginError}
    {r : Attempt Unit} (h : Ended I pageSize s (groups ++ [first]) new e r b t w) :
    Ended I pageSize s groups (first :: new) e r b t w := by
  cases h with
  | told stands =>
    rw [List.append_assoc, List.singleton_append] at stands
    exact .told stands
  | @crowded _ got _ _ _ part full stands =>
    rw [List.append_assoc, List.singleton_append] at stands
    refine .crowded ?_ (fun room => full ?_) stands
    · rw [List.flatten_cons, List.flatten_cons]
      exact (List.prefix_append_right_inj first).mpr part
    · rw [List.flatten_cons] at room
      exact room.parts.2

/-- One turn over the files: it goes on with the next file, or ends here whatever comes next. -/
theorem file_yields (k : chain.TakesAll I pageSize) {opening : Action (Attempt (List Poll))}
    {pieces : List Bytes} (supplied : Supplies I opening pieces) (h : Between I s groups s.nullRow b t w) :
    Yields chain.logged (do
        let polls ← Building.ofAction opening
        addLines o s (Lines.ofPolls o.newline polls)
        Building.flush
        pure (ForInStep.yield PUnit.unit)) b t w fun r b t w =>
      (∃ rows, (∀ files, groupsUntil o s.columns (Lines.ofPolls o.newline (pieces.map .ok) :: files) =
          (rows :: (groupsUntil o s.columns files).1, (groupsUntil o s.columns files).2)) ∧
        r = .ok (.yield ⟨⟩) ∧ Between I s (groups ++ [rows]) s.nullRow b t w) ∨
      ∃ e, r = .error e ∧ ∀ files, Ended I pageSize s groups
        (groupsUntil o s.columns (Lines.ofPolls o.newline (pieces.map .ok) :: files)).1
        (groupsUntil o s.columns (Lines.ofPolls o.newline (pieces.map .ok) :: files)).2
        (.error e) b t w := by
  refine Yields.bind (Q := fun r b t w => r = .ok (pieces.map .ok) ∧ Between I s groups s.nullRow b t w)
    (Yields.ofAction ?_) ?_ ?_
  · obtain ⟨opened, still⟩ := supplied w h.world
    exact ⟨opened, h.offered, h.shows, still⟩
  · rintro polls b t w ⟨same, between⟩
    obtain rfl := Except.ok.inj same
    generalize Lines.ofPolls o.newline (pieces.map .ok) = lines
    rcases told : rowsUntil o s.columns lines with ⟨rows, e⟩
    have read := addLines_yields (o := o) k lines between.within
    rw [told] at read
    refine Yields.bind read ?_ ?_
    · rintro _ b t w (holds | _ | _)
      refine Yields.bind (flush_yields k holds) ?_ ?_
      · rintro _ b t w ⟨-, next⟩
        exact Yields.pure (.inl ⟨rows, groupsUntil_whole told, rfl, next⟩)
      · rintro _ _ _ _ ⟨failed, -⟩
        cases failed
    · rintro e b t w went
      refine .inr ⟨e, rfl, fun files => ?_⟩
      cases went with
      | stopped holds =>
        rw [groupsUntil_stopped told]
        exact .told (.inr ⟨groups, rows, _, rfl, holds⟩)
      | @crowded e _ taken row _ _ _ part full holds =>
        have stands : Stands I s (groups ++ [taken]) b t w := .inr ⟨groups, taken, row, rfl, holds⟩
        cases e with
        | none =>
          rw [groupsUntil_whole told]
          refine .crowded ?_ (fun room => full ?_) stands
          · rw [List.flatten_singleton, List.flatten_cons]
            exact part.trans (List.prefix_append rows _)
          · rw [List.flatten_cons] at room
            exact room.parts.1
        | some e =>
          rw [groupsUntil_stopped told]
          rw [← List.flatten_singleton (l := rows)] at part full
          rw [← List.flatten_singleton (l := taken)] at part
          exact .crowded part full stands
  · rintro _ _ _ _ ⟨failed, -⟩
    cases failed

/-- Files are read one after the other, up to the first bad line of all. -/
theorem readFiles_yields (k : chain.TakesAll I pageSize) {openings : List (Action (Attempt (List Poll)))}
    {files : List (List Bytes)} (supplied : List.Forall₂ (Supplies I) openings files)
    (h : Between I s groups s.nullRow b t w) :
    Yields chain.logged (readFiles o s openings) b t w
      (Ended I pageSize s groups
        (groupsUntil o s.columns (files.map fun pieces => Lines.ofPolls o.newline (pieces.map .ok))).1
        (groupsUntil o s.columns (files.map fun pieces => Lines.ofPolls o.newline (pieces.map .ok))).2) := by
  refine Yields.bind (Q := Ended I pageSize s groups
    (groupsUntil o s.columns (files.map fun pieces => Lines.ofPolls o.newline (pieces.map .ok))).1
    (groupsUntil o s.columns (files.map fun pieces => Lines.ofPolls o.newline (pieces.map .ok))).2) ?_
    (fun _ _ _ _ ended => Yields.pure ended) fun _ _ _ _ ended => ended
  -- Behind each file no row is pending, so the next one starts with pages of its own.
  induction supplied generalizing groups b t w with
  | nil => exact .told (.inl ⟨_, (List.append_nil groups).symm ▸ h⟩)
  | @cons opening pieces openings files supplies _ ih =>
    rw [List.forIn_cons]
    refine Yields.bind (file_yields k supplies h) ?_ ?_
    · rintro _ b t w (⟨rows, splits, same, between⟩ | ⟨_, failed, -⟩)
      · obtain rfl := Except.ok.inj same
        refine (ih between).mono fun _ _ _ _ ended => ?_
        rw [List.map_cons, splits]
        exact ended.later
      · cases failed
    · rintro e b t w (⟨_, _, same, _⟩ | ⟨_, failed, ends⟩)
      · cases same
      · obtain rfl := Except.error.inj failed
        exact ends _

/-- These calls offered pages that hold the rows of these files, and no page holds rows of two of them. -/
def Offers (s : Schema) (groups : List (List (List Cell))) (calls : List SinkCall) : Prop :=
  ∃ pages : List (List Page), calls = pages.flatten.map .add ∧
    List.Forall₂ (fun pages rows => List.Forall₂ Record.HoldsRow (pages.flatMap (·.records s)) rows)
      pages groups

/-- The end of a run over files that hold these rows up to an error, if there is one. It offered all of
them, or ended at a row that had no room. -/
def Delivers (pageSize : Nat) (s : Schema) (groups : List (List (List Cell))) (e : Option PluginError)
    (answer : Attempt Unit) (calls : List SinkCall) : Prop :=
  (Offers s groups calls ∧ answer = e.elim (.ok ()) .error) ∨
    ∃ got size, Offers s got calls ∧ got.flatten <+: groups.flatten ∧
      ¬ s.HasRoom pageSize groups.flatten ∧ answer = .error (.page (.recordTooLarge size))

theorem Ended.delivers {new : List (List (List Cell))} {e : Option PluginError} {r : Attempt Unit}
    (h : Ended I pageSize s [] new e r b t w) (k : chain.TakesAll I pageSize) :
    Yields chain.logged Building.flush b t w fun _ _ t _ => Delivers pageSize s new e r t.2 := by
  have offers : ∀ {got : List (List (List Cell))} {b : PageBuilder} {t : σ × List SinkCall} {w : World},
      Stands I s ([] ++ got) b t w →
        Yields chain.logged Building.flush b t w fun _ _ t _ => Offers s got t.2 := by
    intro got b t w stands
    refine (stands.flushed k).mono ?_
    rintro _ _ t _ ⟨pages, consist, calls⟩
    exact ⟨pages, calls, consist.imp fun _ _ each => each.records_hold⟩
  cases h with
  | told stands => exact (offers stands).mono fun _ _ _ _ all => .inl ⟨all, rfl⟩
  | crowded part full stands =>
    exact (offers stands).mono fun _ _ _ _ some => .inr ⟨_, _, some, part, full, rfl⟩

section Irregular

/-- A chain that takes every page and keeps none. -/
def takingPages : PageChain Unit := ⟨fun _ => return (), return (), return ()⟩

def irregular : Options := ⟨[⟨"a", .long, none⟩, ⟨"b", .string, none⟩], some "-", true, .lf⟩

def numberAndText : Schema := ⟨[⟨0, "a", .long⟩, ⟨1, "b", .string⟩], rfl⟩

/-- A line in two pieces, and in the second file one with a bad number. -/
def irregularFiles : List (List Bytes) :=
  [[Utf8.encode "a:7\tb:x\na", Utf8.encode ":8\tc:9"], [Utf8.encode "b:y\ta:1\n\nb:u\ta:9x\na:3"]]

def irregularInput : FileInput :=
  ⟨irregularFiles.map fun pieces => .done (.ok (pieces.map .ok)), return .ok Document.empty, return (),
    return ()⟩

end Irregular

end Ltsv

end BulkTransfer
