import BulkTransfer.Proofs.Plugin.Frozen
import BulkTransfer.Proofs.Schema.Columns
import BulkTransfer.Proofs.Transfer.Turns
/-!
# Frozen progress

The progress of a transfer becomes a resume state, the state a text, the text a file, and all the way
back. What the other side gets is the progress it was made of, but for the tasks that did not commit on
both sides: those start again. That a text in YAML reads back as the tree it was written from is relied
on; that the tree reads back as the state is proved.
-/
namespace BulkTransfer

section Words

/-- Counts and indices are words of the machine. -/
def wordCount : Nat := 2 ^ 64

theorem Decoder.count_ofNat {n : Nat} (fits : n < wordCount) : Decoder.count (.ofNat n) = .ok n := by
  have inside : IntegerRange.unsigned64.contains n = true := by
    have least : n ≤ 0xFFFFFFFFFFFFFFFF := Nat.le_of_lt_succ fits
    exact Bool.and_eq_true_iff.mpr ⟨decide_eq_true (Int.natCast_nonneg n),
      decide_eq_true (Int.ofNat_le.mpr least)⟩
  simp only [Decoder.count, Decoder.integer, Tree.ofNat, if_pos inside]
  rfl

end Words

section Schemas

namespace Schema

/-- The columns can be counted. -/
def IsCountable (s : Schema) : Prop := s.size < wordCount

theorem make_columns_self (s : Schema) : make s.columns = .ok s := by
  unfold make
  split
  · rfl
  · next fault offends => cases s.sound.symm.trans offends

end Schema

theorem Column.decode_toTree {c : Column} (fits : c.index < wordCount) : decode c.toTree = .ok c := by
  simp [toTree, decode, fields, Decoder.record, RecordField.required, RecordField.ofDecoder,
    Decoder.count_ofNat fits, ColumnType.decode_toTree, Decoder.string, Decoder.field, Entries.get?,
    List.lookup, bind, Except.bind, pure, Except.pure, Except.map]

/-- A schema passes again the checks that it has passed once. -/
theorem Schema.decode_toTree {s : Schema} (fits : s.IsCountable) : decode s.toTree = .ok s := by
  have columns : Decoder.list Column.decode s.toTree = .ok s.columns := by
    refine Decoder.list_map_of_mem fun c mem => Column.decode_toTree ?_
    obtain ⟨i, inside, rfl⟩ := List.getElem_of_mem mem
    rw [s.index_eq (List.getElem?_eq_getElem inside)]
    exact Nat.lt_trans inside fits
  rw [decode, columns]
  simp only [bind, Except.bind, s.make_columns_self]

end Schemas

section States

theorem TaskPhase.decode_toTree (phase : TaskPhase) : decode (.str phase.name) = .ok phase := by
  cases phase <;> rfl

/-- A report that is there stays there, be it empty, and one that is not stays away. -/
theorem TaskRecord.decode_toTree {r : TaskRecord} (fits : r.index < wordCount) :
    decode r.toTree = .ok r := by
  obtain ⟨phase, index, committed, task, report⟩ := r
  have index_ : Decoder.count (.ofNat index) = .ok index := Decoder.count_ofNat fits
  have task_ : Document.decode task.toTree = .ok task := rfl
  cases report with
  | none =>
    simp [toTree, decode, fields, Decoder.record, RecordField.required, RecordField.nullable,
      RecordField.defaulted, RecordField.ofDecoder, index_, task_, TaskPhase.decode_toTree, Decoder.bool,
      Decoder.field, Entries.get?, List.lookup, bind, Except.bind, pure, Except.pure, Except.map]
  | some report =>
    have report_ : optionalReport report.toTree = .ok (some report) := rfl
    simp [toTree, decode, fields, Decoder.record, RecordField.required, RecordField.nullable,
      RecordField.defaulted, RecordField.ofDecoder, index_, task_, report_, TaskPhase.decode_toTree,
      Decoder.bool, Decoder.field, Entries.get?, List.lookup, bind, Except.bind, pure, Except.pure,
      Except.map]

namespace ResumeState

/-- All counts and indices of a state are words. -/
structure IsCountable (s : ResumeState) : Prop where
  count : s.taskCount < wordCount
  records : ∀ r ∈ s.tasks, r.index < wordCount
  input : s.inputSchema.IsCountable
  filters : ∀ schema ∈ s.filterSchemas, schema.IsCountable
  output : s.outputSchema.IsCountable

theorem decode_toTree {s : ResumeState} (fits : s.IsCountable) : decode s.toTree = .ok s := by
  have document : ∀ d : Document, Document.decode d.toTree = .ok d := fun _ => rfl
  have count : Decoder.count (.ofNat s.taskCount) = .ok s.taskCount := Decoder.count_ofNat fits.count
  have input : Schema.decode s.inputSchema.toTree = .ok s.inputSchema := Schema.decode_toTree fits.input
  have output : Schema.decode s.outputSchema.toTree = .ok s.outputSchema := Schema.decode_toTree fits.output
  have filters : documents (.arr (s.filterTasks.map Document.toTree)) = .ok s.filterTasks :=
    Decoder.list_map document s.filterTasks
  have filterSchemas : schemas (.arr (s.filterSchemas.map Schema.toTree)) = .ok s.filterSchemas :=
    Decoder.list_map_of_mem fun schema mem => Schema.decode_toTree (fits.filters schema mem)
  have tasks : records (.arr (s.tasks.map TaskRecord.toTree)) = .ok s.tasks :=
    Decoder.list_map_of_mem fun r mem => TaskRecord.decode_toTree (fits.records r mem)
  simp [toTree, decode, fields, Decoder.record, RecordField.required, RecordField.nullable,
    RecordField.defaulted, RecordField.ofDecoder, document, count, input, output, filters, filterSchemas,
    tasks, Decoder.string, Decoder.field, Entries.get?, List.lookup, bind, Except.bind, pure, Except.pure,
    Except.map]

/-- The text of a state begins with the name of its first field. -/
theorem yaml_not_blank (s : ResumeState) : s.yaml.toList.all isBlank = false := by
  have begins : ∃ rest, s.yaml = "run_id:" ++ rest := by
    rw [yaml, toTree, Tree.yaml, Yaml.mapText, show Yaml.keyLine 0 "run_id" = "run_id:" by decide +kernel,
      String.append_assoc, String.append_assoc]
    · exact ⟨_, rfl⟩
    · nofun
  obtain ⟨rest, begins⟩ := begins
  rw [begins, String.toList_append, List.all_append]
  rfl

/-- A state is read from its text if the text reads back as the tree. -/
theorem reading_yaml (store : StateStore) {s : ResumeState} (fits : s.IsCountable)
    (reads : Tree.ofYaml form s.yaml = .ok s.toTree) : store.reading (.ok s.yaml) = .ok (some s) := by
  have decoded : ofYaml s.yaml = .ok s := by
    rw [ofYaml, reads]
    simp only [bind, Except.bind, decode_toTree fits, pure, Except.pure]
  simp only [StateStore.reading, s.yaml_not_blank, decoded]
  rfl

end ResumeState

end States

namespace Progress

/-- The progress that a transfer can come to: begun afresh or from a state, and moved on by the
transactions and the tasks. -/
inductive Arises : Progress → Prop where
  | fresh : Arises .fresh
  | resumed (saved : ResumeState) : Arises (.resumed saved)
  | setInput {p : Progress} (h : Arises p) (task : Task) (schema : Schema) (taskCount : Nat) :
      Arises (p.setInput task schema taskCount)
  | pushFilter {p : Progress} (h : Arises p) (task : Task) (schema : Schema) :
      Arises (p.pushFilter task schema)
  | setOutput {p : Progress} (h : Arises p) (task : Task) (schema : Schema) :
      Arises (p.setOutput task schema)
  | markStarted {p : Progress} (h : Arises p) : Arises p.markStarted
  | record {p : Progress} (h : Arises p) (outcome : TaskOutcome) : Arises (p.record outcome)
  | takeTaskErrors {p : Progress} (h : Arises p) : Arises p.takeTaskErrors.2

variable {p : Progress} {i : Nat} {slot : TaskSlot} {runId : String} {execConfig : Config} {s : ResumeState}

/-- There is a slot for each task. -/
theorem Arises.slots_length (h : Arises p) : p.slots.length = p.taskCount := by
  induction h with
  | fresh => rfl
  | resumed saved => simp [Progress.resumed]
  | setInput _ task schema taskCount _ =>
    simp only [Progress.setInput]
    split
    · next fits => exact fits.2
    · exact List.length_replicate
  | pushFilter _ _ _ ih => exact ih
  | setOutput _ _ _ ih => exact ih
  | markStarted _ ih => exact ih
  | record _ outcome ih => exact (List.length_modify ..).trans ih
  | takeTaskErrors _ ih => exact (List.length_map ..).trans ih

/-- The number of tasks and the numbers of columns are words. -/
structure IsCountable (p : Progress) : Prop where
  count : p.taskCount < wordCount
  input : ∀ schema ∈ p.inputSchema, schema.IsCountable
  filters : ∀ schema ∈ p.filterSchemas, schema.IsCountable
  output : ∀ schema ∈ p.outputSchema, schema.IsCountable

theorem resumeState?_filters (h : p.resumeState? runId execConfig = some s) :
    s.filterTasks = p.filterTasks ∧ s.filterSchemas = p.filterSchemas := by
  unfold resumeState? at h
  simp only [Option.bind_eq_bind] at h
  split at h
  · cases h
  · simp only [Option.bind_eq_some_iff, Option.some.injEq] at h
    obtain ⟨_, -, _, -, _, -, _, -, rfl⟩ := h
    exact ⟨rfl, rfl⟩

theorem recordsFrom_lt {inputTask outputTask : Task} {slots : List TaskSlot} {start : Nat} {r : TaskRecord}
    (h : r ∈ recordsFrom inputTask outputTask slots start) : r.index < start + slots.length := by
  simp only [recordsFrom, List.mem_flatMap, Prod.exists] at h
  obtain ⟨slot, index, place, made⟩ := h
  have bound : index < start + slots.length := by
    obtain ⟨least, found⟩ := List.mk_mem_zipIdx_iff_le_and_getElem?_sub.mp place
    have inside := (List.getElem?_eq_some_iff.mp found).1
    omega
  simp only [recordsOf, List.mem_cons, List.not_mem_nil, or_false] at made
  rcases made with rfl | rfl
  · exact bound
  · exact bound

theorem IsCountable.frozen (fits : p.IsCountable) (arises : Arises p) (h : p.resumeState? runId execConfig = some s) :
    s.IsCountable := by
  obtain ⟨-, count, tasks⟩ := resumeState?_some h
  obtain ⟨-, input, -, output⟩ := resumeState?_frozen h
  obtain ⟨-, filters⟩ := resumeState?_filters h
  refine ⟨count ▸ fits.count, fun r mem => ?_, fits.input _ input, filters ▸ fits.filters, fits.output _ output⟩
  have bound := recordsFrom_lt (tasks ▸ mem)
  rw [arises.slots_length, Nat.zero_add] at bound
  exact Nat.lt_trans bound fits.count

/-- The pending tasks are the indices of slots that are not committed, in order. -/
theorem pendingTasks_eq (p : Progress) :
    p.pendingTasks = (List.range p.slots.length).filter fun i => !p.slots[i]?.any TaskSlot.isCommitted := by
  have byPlace : p.uncommitted =
      p.slots.zipIdx.filter ((fun i => !p.slots[i]?.any TaskSlot.isCommitted) ∘ Prod.snd) := by
    refine List.filter_congr fun ⟨slot, i⟩ mem => ?_
    rw [Function.comp_apply, List.mk_mem_zipIdx_iff_getElem?.mp mem]
    rfl
  rw [pendingTasks, byPlace, ← List.filter_map, List.zipIdx_map_snd, List.range_eq_range']

/-- The progress `q` goes on from where `p` stopped: with the same frozen sides and filters, with the
reports of the tasks that committed on both sides, and with all other tasks still to run. -/
structure GoesOnFrom (q p : Progress) : Prop where
  inputTask : q.inputTask = p.inputTask
  inputSchema : q.inputSchema = p.inputSchema
  outputTask : q.outputTask = p.outputTask
  outputSchema : q.outputSchema = p.outputSchema
  filterTasks : q.filterTasks = p.filterTasks
  filterSchemas : q.filterSchemas = p.filterSchemas
  plan : ∀ plugins, q.plan plugins = p.plan plugins
  taskCount : q.taskCount = p.taskCount
  reports : ∀ (i : Nat) (slot : TaskSlot), p.slots[i]? = some slot → slot.isCommitted →
    q.slots[i]? = some ⟨slot.input, slot.output, none⟩
  pending : q.pendingTasks =
    (List.range p.taskCount).filter fun i => !p.slots[i]?.any TaskSlot.isCommitted

theorem resumed_slots (arises : Arises p) (h : p.resumeState? runId execConfig = some s)
    (hi : p.slots[i]? = some slot) :
    (resumed s).slots[i]? = some (if slot.isCommitted then { slot with error := none } else .blank) := by
  have inside : i < s.taskCount := by
    rw [(resumeState?_some h).2.1, ← arises.slots_length]
    exact (List.getElem?_eq_some_iff.mp hi).1
  rw [resumed, List.getElem?_map, List.getElem?_range inside, Option.map_some, ResumeState.resumedSlot_eq h hi]

theorem resumed_goesOn (arises : Arises p) (h : p.resumeState? runId execConfig = some s) :
    (resumed s).GoesOnFrom p := by
  obtain ⟨-, count, -⟩ := resumeState?_some h
  obtain ⟨inputTask, inputSchema, outputTask, outputSchema⟩ := resumeState?_frozen h
  obtain ⟨filterTasks, filterSchemas⟩ := resumeState?_filters h
  refine ⟨inputTask.symm, inputSchema.symm, outputTask.symm, outputSchema.symm, filterTasks,
    filterSchemas, fun plugins => ?_, count, fun i slot hi committed => ?_, ?_⟩
  · rw [plan, plan, inputTask, inputSchema, outputTask, outputSchema, ← filterTasks, ← filterSchemas]
    rfl
  · rw [resumed_slots arises h hi, if_pos committed]
  · have slots : (resumed s).slots.length = p.taskCount :=
      (Arises.resumed s).slots_length.trans count
    rw [pendingTasks_eq, slots]
    refine List.filter_congr fun i inside => ?_
    have within : i < p.slots.length := arises.slots_length ▸ List.mem_range.mp inside
    have hi : p.slots[i]? = some p.slots[i] := List.getElem?_eq_getElem within
    rw [resumed_slots arises h hi, hi, Option.any_some, Option.any_some]
    cases committed : p.slots[i].isCommitted with
    | true => simpa [TaskSlot.isCommitted] using committed
    | false => rfl

/-- A state that was made of a transfer's progress and saved is what the store then gives, if its text
reads back as its tree, and the transfer that is resumed from it goes on from there. -/
theorem frozen_progress_survives_store (store : StateStore) {w : World} (arises : Arises p) (fits : p.IsCountable)
    (frozen : p.resumeState? runId execConfig = some s)
    (reads : Tree.ofYaml ResumeState.form s.yaml = .ok s.toTree)
    (saved : ((store.save s).run w).1 = .ok ()) :
    let after := ((store.save s).run w).2
    after.disk.refusal after.disk.clock (.read store.path) = none →
      (store.load.run after).1 = .ok (some s) ∧ (resumed s).GoesOnFrom p := by
  intro after allowed
  have saves : store.Saves s w := ⟨saved, ResumeState.reading_yaml store (fits.frozen arises frozen) reads⟩
  exact ⟨(StateStore.loads_of_heldOn saves.kept allowed).told, resumed_goesOn arises frozen⟩

section HalfDone

def oneColumn : Schema := ⟨[⟨0, "a", .string⟩], rfl⟩

/-- One of two tasks has committed, with nothing to say; of the other one only the input has. -/
def halfDone : Progress :=
  (((fresh.setInput .empty oneColumn 2).setOutput .empty .empty).markStarted.record
    ⟨0, some .empty, some .empty, none⟩).record ⟨1, some .empty, none, some (.other "full")⟩

def halfDoneState : ResumeState where
  runId := "r"
  execConfig := .empty
  inputTask := .empty
  inputSchema := oneColumn
  outputTask := .empty
  outputSchema := .empty
  filterTasks := []
  filterSchemas := []
  taskCount := 2
  tasks := [⟨.input, 0, true, .empty, some .empty⟩, ⟨.output, 0, true, .empty, some .empty⟩,
    ⟨.input, 1, true, .empty, some .empty⟩, ⟨.output, 1, false, .empty, none⟩]

def halfDoneText : String :=
  "run_id: r\nexec_config: \x7b\x7d\ninput_task: \x7b\x7d\ninput_schema:\n- index: 0\n  name: a\n" ++
    "  type: string\noutput_task: \x7b\x7d\noutput_schema: []\nfilter_tasks: []\nfilter_schemas: []\n" ++
    "task_count: 2\ntasks:\n- phase: input\n  index: 0\n  committed: true\n  task_source: \x7b\x7d\n" ++
    "  report: \x7b\x7d\n- phase: output\n  index: 0\n  committed: true\n  task_source: \x7b\x7d\n" ++
    "  report: \x7b\x7d\n- phase: input\n  index: 1\n  committed: true\n  task_source: \x7b\x7d\n" ++
    "  report: \x7b\x7d\n- phase: output\n  index: 1\n  committed: false\n  task_source: \x7b\x7d\n"

theorem halfDone_reads : Tree.ofYaml ResumeState.form halfDoneState.yaml = .ok halfDoneState.toTree := by
  have written : halfDoneState.yaml = halfDoneText := by decide +kernel
  rw [written]
  unfold Tree.ofYaml Yaml.LinkedDocument.ofText Yaml.Token.ofText halfDoneText
  dsimp only
  rw [← String.length_toList]
  simp only [String.toList_append]
  repeat rw [String.toList_ofList]
  decide +kernel

/-- The committed task is not run again, the other one is. -/
theorem half_done_survives_store :
    (rehearsedStore.load.run ((rehearsedStore.save halfDoneState).run default).2).1 =
        .ok (some halfDoneState) ∧
      (resumed halfDoneState).GoesOnFrom halfDone ∧ (resumed halfDoneState).pendingTasks = [1] := by
  have arises : Arises halfDone :=
    ((((Arises.fresh.setInput _ _ _).setOutput _ _).markStarted).record _).record _
  have fits : halfDone.IsCountable := by
    refine ⟨by decide, ?_, by nofun, ?_⟩
    · rintro schema ⟨⟩
      exact show oneColumn.size < wordCount by decide
    · rintro schema ⟨⟩
      exact show Schema.empty.size < wordCount by decide
  have frozen : halfDone.resumeState? "r" .empty = some halfDoneState := rfl
  obtain ⟨loaded, goesOn⟩ := frozen_progress_survives_store rehearsedStore (w := default) arises fits
    frozen halfDone_reads (by decide) (by decide +kernel)
  exact ⟨loaded, goesOn, by decide⟩

end HalfDone

end Progress

end BulkTransfer
