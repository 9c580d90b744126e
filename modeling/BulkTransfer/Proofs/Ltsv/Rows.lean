import BulkTransfer.Ltsv.Parser
import BulkTransfer.Proofs.Local.Pieces
import BulkTransfer.Proofs.Ltsv.Fields
import BulkTransfer.Proofs.Plugin.Opening
import BulkTransfer.Proofs.Plugin.Sink
import BulkTransfer.Proofs.Schema.Columns
/-!
# The rows of a file

What a file of labelled values says, line by line, and that the parser hands exactly that to a sink,
in whatever pieces it reads the file. It fails only where the file says nothing, or where the sink has
trouble with what it says.
-/
namespace BulkTransfer

namespace Ltsv

open SinkContract

def rowOf (o : Options) (columns : List Column) (line : String) : Attempt (List Cell) := do
  let fields ← (splitFields line).mapError fun fault => PluginError.invalidFormat fault.message
  columns.mapM (columnCell o fields)

/-- The rows of some lines; empty lines are no rows. -/
def rowsOf (o : Options) (columns : List Column) :
    List (Attempt String) → Attempt (List (List Cell))
  | [] => .ok []
  | line :: rest => do
    let line ← line
    if line.isEmpty then rowsOf o columns rest
    else
      let row ← rowOf o columns line
      let others ← rowsOf o columns rest
      return row :: others

def fileRows (o : Options) (s : Schema) (content : Bytes) : Attempt (List (List Cell)) :=
  rowsOf o s.columns (Lines.ofPolls o.newline ((LocalInput.piecesOf content).map .ok))

variable {σ : Type} {o : Options} {s : Schema} {fields : List Field} {c : Column} {cell : Cell}

theorem cellOf_type {type : ColumnType} {format : Option String} {text : String}
    (h : cellOf type format text = .ok cell) : cell.type? = some type := by
  unfold cellOf at h
  split at h
  · cases h
    rfl
  · cases h
    rfl
  all_goals
    split at h
    · cases h
      rfl
    · cases h

theorem columnCell_fits (h : columnCell o fields c = .ok cell) : cell.FitsType c.type := by
  intro t ht
  unfold columnCell at h
  split at h
  · cases h
    cases ht
  · split at h
    · rename_i read
      cases h
      rw [cellOf_type read, Option.some.injEq] at ht
      exact ht.symm
    · cases h

theorem mapM_ok_mem {α β ε : Type} {f : α → Except ε β} {as : List α} {bs : List β}
    (h : as.mapM f = .ok bs) {a : α} (hm : a ∈ as) : ∃ b, f a = .ok b := by
  induction as generalizing bs with
  | nil => cases hm
  | cons first rest ih =>
    rw [List.mapM_cons] at h
    obtain ⟨b, ok, h⟩ := Attempt.of_bind h
    obtain ⟨others, more, -⟩ := Attempt.of_bind h
    rcases List.mem_cons.mp hm with rfl | hm
    · exact ⟨b, ok⟩
    · exact ih more hm

/-- The rows of lines are those of the first line, if it is not empty, before those of the others. -/
theorem rowsOf_cons {columns : List Column} {line : Attempt String} {rest : List (Attempt String)}
    {rows : List (List Cell)} (h : rowsOf o columns (line :: rest) = .ok rows) :
    ∃ text others, line = .ok text ∧ rowsOf o columns rest = .ok others ∧
      (text.isEmpty = false → ∃ row, rowOf o columns text = .ok row ∧ rows = row :: others) := by
  obtain ⟨text, same, h⟩ := Attempt.of_bind h
  by_cases blank : text.isEmpty = true
  · rw [if_pos blank] at h
    exact ⟨text, rows, same, h, fun filled => absurd (blank.symm.trans filled) (by simp)⟩
  · rw [if_neg blank] at h
    obtain ⟨row, ok, h⟩ := Attempt.of_bind h
    obtain ⟨others, more, h⟩ := Attempt.of_bind h
    cases h
    exact ⟨text, others, same, more, fun _ => ⟨row, ok, rfl⟩⟩

/-- The rows of lines go on with those of more lines. -/
theorem rowsOf_parts {columns : List Column} {first second : List (Attempt String)}
    {done rows : List (List Cell)} (hd : rowsOf o columns first = .ok done)
    (h : rowsOf o columns (first ++ second) = .ok rows) :
    ∃ more, rowsOf o columns second = .ok more ∧ rows = done ++ more := by
  induction first generalizing done rows with
  | nil =>
    cases hd
    exact ⟨rows, h, rfl⟩
  | cons line first ih =>
    obtain ⟨text, same, hd⟩ := Attempt.of_bind hd
    obtain ⟨text', same', h⟩ := Attempt.of_bind h
    obtain rfl : text = text' := Except.ok.inj (same.symm.trans same')
    by_cases blank : text.isEmpty
    · rw [if_pos blank] at hd h
      exact ih hd h
    · rw [if_neg blank] at hd h
      obtain ⟨row, ok, hd⟩ := Attempt.of_bind hd
      obtain ⟨row', ok', h⟩ := Attempt.of_bind h
      obtain rfl : row = row' := Except.ok.inj (ok.symm.trans ok')
      obtain ⟨others, told, hd⟩ := Attempt.of_bind hd
      obtain ⟨others', told', h⟩ := Attempt.of_bind h
      cases hd
      cases h
      obtain ⟨more, rest, rfl⟩ := ih told told'
      exact ⟨more, rest, rfl⟩

theorem rowsOf_concat {columns : List Column} {lines : List (Attempt String)}
    {last : Attempt String} {rows new : List (List Cell)} (h : rowsOf o columns lines = .ok rows)
    (hl : rowsOf o columns [last] = .ok new) :
    rowsOf o columns (lines ++ [last]) = .ok (rows ++ new) := by
  induction lines generalizing rows with
  | nil =>
    cases h
    exact hl
  | cons line rest ih =>
    cases line with
    | error e => cases h
    | ok line =>
      rw [List.cons_append, rowsOf]
      rw [rowsOf] at h
      simp only [bind, Except.bind] at h ⊢
      by_cases blank : line.isEmpty
      · rw [if_pos blank] at h ⊢
        exact ih h
      · rw [if_neg blank] at h ⊢
        cases hr : rowOf o columns line with
        | error e => simp [hr] at h
        | ok row =>
          cases ho : rowsOf o columns rest with
          | error e => simp [hr, ho] at h
          | ok others =>
            simp only [hr, ho, pure, Except.pure, Except.ok.injEq] at h
            subst h
            simp only [ih ho]
            rfl

section Parsing

variable {r : Region} {sink : PageSink σ} {k : SinkContract r s sink} {b : PageBuilder} {t : σ}
  {d : Disk} {rows : List (List Cell)}

/-- The cells of a line are staged column by column. -/
theorem setCells_builds (h : k.Holds rows s.nullRow b t d) :
    k.Builds (fun _ => ∀ cells, s.columns.mapM (columnCell o fields) ≠ .ok cells)
      (forIn s.columns PUnit.unit fun c _ => do
        let cell ← Building.ofAttempt (columnCell o fields c)
        Building.set c.index cell
        pure (ForInStep.yield PUnit.unit)) b t d
      fun _ b t d => ∃ cells, s.columns.mapM (columnCell o fields) = .ok cells ∧
        k.Holds rows cells b t d := by
  refine (Builds.forIn (I := fun done b t d => ∃ cells,
    List.Forall₂ (fun c cell => columnCell o fields c = .ok cell) done cells ∧
      k.Holds rows (cells ++ List.replicate (s.size - done.length) .null) b t d) ?_ ?_).mono ?_
  · exact ⟨[], .nil, h⟩
  · rintro done c rest parts b t d ⟨cells, read, holds⟩
    refine Builds.bind (Q := fun cell b' t' d' => columnCell o fields c = .ok cell ∧
        k.Holds rows (cells ++ List.replicate (s.size - done.length) .null) b' t' d')
      (Builds.ofAttempt holds.isOpen ?_ fun cell hc => ⟨hc, holds⟩) ?_
    · intro e failed cells all
      obtain ⟨cell, ok⟩ := mapM_ok_mem (a := c) all (by simp [parts])
      rw [failed] at ok
      cases ok
    rintro cell b t d ⟨hc, holds⟩
    have place : s.columns[done.length]? = some c := by
      rw [parts, List.getElem?_append_right (Nat.le_refl _), Nat.sub_self]
      rfl
    have index := s.index_eq place
    have size : s.size = done.length + (rest.length + 1) := by
      rw [Schema.size, parts, List.length_append, List.length_cons]
    have accepted : s.accepts c.index cell = true :=
      Schema.accepts_iff.mpr ⟨c, index ▸ place, columnCell_fits hc⟩
    refine Builds.bind (SinkContract.set_builds holds accepted) ?_
    intro _ b t d holds
    refine Builds.pure ⟨rfl, cells ++ [cell], List.rel_append read (.cons hc .nil), ?_⟩
    have filled : (cells ++ List.replicate (s.size - done.length) Cell.null).set done.length cell =
        cells ++ [cell] ++ List.replicate (s.size - (done ++ [c]).length) Cell.null := by
      rw [List.length_append, List.length_singleton,
        show s.size - done.length = rest.length + 1 by omega,
        show s.size - (done.length + 1) = rest.length by omega, List.replicate_succ,
        read.length_eq, List.set_append_right _ _ (Nat.le_refl _), Nat.sub_self, List.set_cons_zero,
        List.append_assoc, List.singleton_append]
    rw [index, filled] at holds
    exact holds
  · rintro _ b t d ⟨cells, read, holds⟩
    refine ⟨cells, mapM_ok read, ?_⟩
    rwa [Schema.size, Nat.sub_self, List.replicate_zero, List.append_nil] at holds

theorem addLine_builds (h : k.Holds rows s.nullRow b t d) (line : String) :
    k.Builds (fun d => ∀ row, rowOf o s.columns line = .ok row → k.Troubled (rows ++ [row]) d)
      (addLine o s line) b t d fun _ b t d => ∃ row, rowOf o s.columns line = .ok row ∧
        k.Holds (rows ++ [row]) s.nullRow b t d := by
  have steps : ∀ row, rowOf o s.columns line = .ok row → ∃ fields,
      (splitFields line).mapError (fun fault => PluginError.invalidFormat fault.message) =
        .ok fields ∧ s.columns.mapM (columnCell o fields) = .ok row :=
    fun row told => Attempt.of_bind told
  refine Builds.bind (Q := fun fields b' t' d' =>
      (splitFields line).mapError (fun fault => PluginError.invalidFormat fault.message) =
        .ok fields ∧ k.Holds rows s.nullRow b' t' d')
    (Builds.ofAttempt h.isOpen ?_ fun fields hf => ⟨hf, h⟩) ?_
  · intro e failed row told
    obtain ⟨fields, split, -⟩ := steps row told
    rw [failed] at split
    cases split
  rintro fields b t d ⟨split, holds⟩
  refine Builds.bind ((setCells_builds holds).because ?_) ?_
  · intro d none row told
    obtain ⟨fields', split', read⟩ := steps row told
    obtain rfl : fields = fields' := Except.ok.inj (split.symm.trans split')
    exact absurd read (none row)
  rintro _ b t d ⟨cells, read, holds⟩
  have told : rowOf o s.columns line = .ok cells := by
    rw [rowOf, split]
    exact read
  refine ((SinkContract.addRecord_builds holds).because fun d trouble row again => ?_).mono
    fun _ b t d holds => ⟨cells, told, holds⟩
  obtain rfl : cells = row := Except.ok.inj (told.symm.trans again)
  exact trouble

theorem addLines_builds (h : k.Holds rows s.nullRow b t d) (lines : List (Attempt String)) :
    k.Builds (fun d => ∀ new, rowsOf o s.columns lines = .ok new → k.Troubled (rows ++ new) d)
      (addLines o s lines) b t d fun _ b t d => ∃ new, rowsOf o s.columns lines = .ok new ∧
        k.Holds (rows ++ new) s.nullRow b t d := by
  refine Builds.bind (Builds.forIn (I := fun done b t d => ∃ new, rowsOf o s.columns done = .ok new ∧
    k.Holds (rows ++ new) s.nullRow b t d) ?_ ?_) fun _ _ _ _ holds => Builds.pure holds
  · exact ⟨[], rfl, by rwa [List.append_nil]⟩
  · rintro done line rest rfl b t d ⟨new, read, holds⟩
    refine Builds.bind (Q := fun text b' t' d' => line = .ok text ∧
        k.Holds (rows ++ new) s.nullRow b' t' d')
      (Builds.ofAttempt holds.isOpen ?_ fun text hl => ⟨hl, holds⟩) ?_
    · rintro e rfl all told
      obtain ⟨more, rest, -⟩ := rowsOf_parts read told
      obtain ⟨_, _, same, -⟩ := rowsOf_cons rest
      cases same
    rintro text b t d ⟨rfl, holds⟩
    by_cases blank : text.isEmpty
    · simp only [blank, Bool.not_true, Bool.false_eq_true, if_false]
      refine Builds.pure ⟨rfl, new, ?_, holds⟩
      have last : rowsOf o s.columns [.ok text] = .ok [] := by simp [rowsOf, blank, bind, Except.bind]
      rw [rowsOf_concat read last, List.append_nil]
    · simp only [blank, Bool.not_false, if_true]
      refine Builds.bind ((addLine_builds holds text).because fun d trouble all told => ?_) ?_
      · obtain ⟨more, rest, rfl⟩ := rowsOf_parts read told
        obtain ⟨_, others, same, -, first⟩ := rowsOf_cons rest
        cases same
        obtain ⟨row, ok, rfl⟩ := first (by simpa using blank)
        have more := (trouble row ok).more others
        rwa [List.append_assoc, List.append_assoc, List.singleton_append] at more
      rintro _ b t d ⟨row, hr, holds⟩
      refine Builds.pure ⟨rfl, new ++ [row], ?_, by rwa [← List.append_assoc]⟩
      have last : rowsOf o s.columns [.ok text] = .ok [row] := by
        simp [rowsOf, blank, hr, bind, Except.bind, pure, Except.pure]
      exact rowsOf_concat read last

/-- A file holds what stands for these rows. -/
def Tells (o : Options) (s : Schema) (path : String) (rows : List (List Cell)) (d : Disk) : Prop :=
  ∃ content, d.fileAt? path = some content ∧ fileRows o s content = .ok rows

/-- A file that is only read holds what stands for these rows. -/
def Told (r : Region) (o : Options) (s : Schema) (path : String) (rows : List (List Cell))
    (d : Disk) : Prop :=
  r.read (Path.place path) → Tells o s path rows d

/-- A file that is only read cannot be read, unless it is refused. -/
def Unreadable (r : Region) (path : String) (d : Disk) : Prop :=
  r.read (Path.place path) → (∀ n, d.refusal n (.read path) = none) →
    ∀ content, d.fileAt? path ≠ some content

/-- The sink has trouble with what a file says that is only read, unless it says nothing. -/
def Blocked (k : SinkContract r s sink) (o : Options) (path : String) (d : Disk) : Prop :=
  r.read (Path.place path) → (∀ n, d.refusal n (.read path) = none) →
    ∀ content rows, d.fileAt? path = some content → fileRows o s content = .ok rows →
      k.Troubled rows d

theorem content_fixed (path : String) (content : Bytes) :
    r.Fixed fun d => r.read (Path.place path) → d.fileAt? path = some content :=
  fun _ _ agrees held read => (agrees.fileAt? read).trans (held read)

theorem told_fixed (path : String) (rows : List (List Cell)) : r.Fixed (Told r o s path rows) := by
  intro d d' agrees told read
  obtain ⟨content, held, same⟩ := told read
  exact ⟨content, (agrees.fileAt? read).trans held, same⟩

theorem unreadable_fixed (path : String) : r.Fixed (Unreadable r path) := by
  intro d d' agrees none read allows content
  rw [agrees.fileAt? read]
  rw [agrees.refusal] at allows
  exact none read allows content

theorem Unreadable.blocked {path : String} (h : Unreadable r path d) : Blocked k o path d :=
  fun read allows content _ held => absurd held (h read allows content)

theorem blocked_fixed (path : String) : r.Fixed (Blocked k o path) := by
  intro d d' agrees blocked read allows content rows held told able
  rw [agrees.fileAt? read] at held
  rw [agrees.refusal] at allows
  exact blocked read allows content rows held told
    (k.able_before (agrees.mono fun _ none => none.elim) able)

/-- What is opened is the whole content of a file, or there is an error, which may come only when it
is read. -/
theorem openFile_ensures (c : LocalInput.Cutting) {path : String} {P : Disk → Prop}
    (stable : r.Stable P) (hp : P d) :
    (c.openFile path).Ensures r (fun x d => P d ∧ ((∃ content, d.fileAt? path = some content ∧
      x = .ok ((c.pieces path content).map .ok)) ∨
        Unreadable r path d ∧ ((∃ e, x = .error e) ∨ ∃ e, x = .ok [.error e]))) d := by
  refine Program.Ensures.andThen (Q := fun x d => P d ∧
    (∀ content, x = .ok content → d.fileAt? path = some content) ∧
      ∀ e, x = .error e → Unreadable r path d) (Program.Ensures.onDisk ?_) ?_
  · intro d' spared
    have same := Disk.read_agrees d' path
    refine ⟨same _, stable d' _ (same _) (stable d d' spared hp), fun content read => ?_, ?_⟩
    · rw [(same fun _ => True).fileAt? trivial]
      exact Disk.read_ok read
    · intro e failed read allows content held
      rw [(same fun _ => True).refusal] at allows
      rw [(same fun _ => True).fileAt? trivial] at held
      exact absurd ((congrArg Prod.fst (Disk.read_allowed allows held)).symm.trans failed) (by simp)
  · rintro x d ⟨hp, read, unreadable⟩
    cases x with
    | ok content => exact ⟨hp, .inl ⟨content, read content rfl, rfl⟩⟩
    | error cause =>
      have none := unreadable cause rfl
      cases cause with
      | isADirectory => exact ⟨hp, .inr ⟨none, .inr ⟨.file path .isADirectory, rfl⟩⟩⟩
      | _ => exact ⟨hp, .inr ⟨none, .inl ⟨_, rfl⟩⟩⟩

/-- A file that was read to its end has been handed over whole. -/
theorem readFiles_builds (c : LocalInput.Cutting) (path : String)
    (h : k.Holds [] s.nullRow b t d) :
    k.Builds (Blocked k o path) (readFiles o s [c.openFile path]) b t d
      fun _ b t d => ∃ rows, k.Flushed rows b t d ∧ Told r o s path rows d := by
  refine Builds.bind (Builds.forIn (I := fun done b t d => (done = [] ∧ k.Holds [] s.nullRow b t d) ∨
    done ≠ [] ∧ ∃ rows, k.Flushed rows b t d ∧ Told r o s path rows d) (.inl ⟨rfl, h⟩) ?_) ?_
  · intro done opening rest parts b t d before
    obtain ⟨rfl, rfl, rfl⟩ : done = [] ∧ opening = c.openFile path ∧ rest = [] := by
      cases done with
      | nil =>
        cases parts
        exact ⟨rfl, rfl, rfl⟩
      | cons first others => simp at parts
    rcases before with ⟨-, holds⟩ | ⟨some, -⟩
    · refine Builds.bind (Q := fun polls b t d => k.Holds [] s.nullRow b t d ∧
        ((∃ content, d.fileAt? path = some content ∧
          polls = (c.pieces path content).map .ok) ∨
            Unreadable r path d ∧ ∃ e, polls = [.error e]))
        (Builds.ofAction (openFile_ensures c Holds.stable holds) ?_ ?_) ?_
      · rintro e d ⟨holds, ⟨_, _, same⟩ | ⟨none, -⟩⟩
        · cases same
        · exact ⟨holds.isOpen, none.blocked⟩
      · rintro polls d ⟨holds, ⟨content, held, same⟩ | ⟨none, ⟨e, same⟩ | ⟨e, same⟩⟩⟩
        · exact ⟨holds, .inl ⟨content, held, Except.ok.inj same⟩⟩
        · cases same
        · exact ⟨holds, .inr ⟨none, e, Except.ok.inj same⟩⟩
      · rintro polls b t d ⟨holds, ⟨content, held, rfl⟩ | ⟨none, e, rfl⟩⟩
        · have fixed := content_fixed (r := r) path content
          have pieces := Lines.ofPolls_joined o.newline
            ((c.joined path content).trans (LocalInput.piecesOf_joined content).symm)
          rw [pieces]
          refine Builds.bind (((addLines_builds holds _).keep fixed fun _ => held).because ?_) ?_
          · rintro d ⟨trouble, same⟩ read _ content' rows held' told
            obtain rfl : content = content' := Option.some.inj ((same read).symm.trans held')
            exact trouble rows told
          rintro _ b t d ⟨⟨rows, told, holds⟩, held⟩
          refine Builds.bind (((flush_builds holds).keep fixed held).because ?_) ?_
          · rintro d ⟨trouble, same⟩ read _ content' rows' held' told'
            obtain rfl : content = content' := Option.some.inj ((same read).symm.trans held')
            obtain rfl : rows = rows' := Except.ok.inj (told.symm.trans told')
            exact trouble
          rintro _ b t d ⟨flushed, held⟩
          exact Builds.pure ⟨rfl, .inr ⟨by simp, rows, flushed, fun read => ⟨content, held read, told⟩⟩⟩
        · refine Builds.bind (((addLines_builds holds _).keep (unreadable_fixed path) none).because
            fun d h => h.2.blocked) ?_
          rintro _ b t d ⟨⟨rows, told, -⟩, -⟩
          cases told
    · exact absurd rfl some
  · rintro _ b t d (⟨none, -⟩ | ⟨-, done⟩)
    · cases none
    · exact Builds.pure done

end Parsing

end Ltsv

end BulkTransfer
