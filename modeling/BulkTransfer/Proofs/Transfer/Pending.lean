import BulkTransfer.Proofs.Transfer.Freezing
import BulkTransfer.Proofs.Transfer.Recollection
/-!
# Which tasks a resumed transfer runs

A state counts a task as committed by the flags of its records; a resumed transfer spares a task by the
reports of its records. The two agree on every state that a transfer has left. On others, which a store
gives as well, a task that has committed without a report is run again.
-/
namespace BulkTransfer

namespace ResumeState

variable {s : ResumeState} {i : Nat}

/-- Both sides of a task have committed with a report. -/
def isTaskReported (s : ResumeState) (index : Nat) : Bool :=
  [TaskPhase.input, TaskPhase.output].all fun phase => (s.reportAt phase index).isSome

/-- The reader of the flags and the reader of the reports see the same. -/
def Agrees (s : ResumeState) : Prop := ∀ i ∈ s.committedTasks, s.isTaskReported i = true

theorem mem_committedTasks : i ∈ s.committedTasks ↔ i < s.taskCount ∧ s.isTaskCommitted i = true := by
  rw [committedTasks, List.mem_filter, List.mem_range]

theorem isTaskCommitted_of_reported (h : s.isTaskReported i = true) : s.isTaskCommitted i = true := by
  have flagged : ∀ phase, (s.reportAt phase i).isSome = true →
      (s.record? phase i).any TaskRecord.isCommitted = true := by
    intro phase known
    unfold reportAt at known
    cases hr : s.record? phase i with
    | none => simp [hr] at known
    | some r =>
      rw [hr, Option.bind_some] at known
      by_cases committed : r.isCommitted = true
      · exact committed
      · simp [committed] at known
  simp only [isTaskReported, List.all_cons, List.all_nil, Bool.and_true, Bool.and_eq_true] at h
  simp only [isTaskCommitted, List.all_cons, List.all_nil, Bool.and_true, Bool.and_eq_true]
  exact ⟨flagged .input h.1, flagged .output h.2⟩

/-- A resumed task is done with when it is reported. -/
theorem isCommitted_resumedSlot (s : ResumeState) (i : Nat) :
    (Progress.resumedSlot s i).isCommitted = s.isTaskReported i := by
  cases committed : s.isTaskCommitted i with
  | true =>
    have input := side_resumedSlot committed .input
    have output := side_resumedSlot committed .output
    simp only [isTaskReported, List.all_cons, List.all_nil, Bool.and_true, ← input, ← output]
    rfl
  | false =>
    have unreported : s.isTaskReported i = false := by
      cases reported : s.isTaskReported i with
      | false => rfl
      | true =>
        rw [isTaskCommitted_of_reported reported] at committed
        cases committed
    rw [unreported, Progress.resumedSlot, committed]
    rfl

theorem pendingTasks_resumed (s : ResumeState) :
    (Progress.resumed s).pendingTasks = (List.range s.taskCount).filter fun i => !s.isTaskReported i := by
  have count : (Progress.resumed s).slots.length = s.taskCount := (Progress.Arises.resumed s).slots_length
  rw [Progress.pendingTasks_eq, count]
  refine List.filter_congr fun i inside => ?_
  have slot : (Progress.resumed s).slots[i]? = some (Progress.resumedSlot s i) := by
    rw [Progress.resumed, List.getElem?_map, List.getElem?_range (List.mem_range.mp inside),
      Option.map_some]
  rw [slot, Option.any_some, isCommitted_resumedSlot]

/-- Both readers give the same tasks to run if they agree on what has committed, and only then. -/
theorem pendingTasks_eq_iff (s : ResumeState) :
    ((Progress.resumed s).pendingTasks =
      (List.range s.taskCount).filter fun i => i ∉ s.committedTasks) ↔ s.Agrees := by
  rw [pendingTasks_resumed]
  constructor
  · intro same i counted
    by_contra unreported
    have waits : i ∈ (List.range s.taskCount).filter fun i => !s.isTaskReported i := by
      rw [List.mem_filter, List.mem_range]
      exact ⟨(mem_committedTasks.mp counted).1, by simpa using unreported⟩
    rw [same, List.mem_filter] at waits
    exact of_decide_eq_true waits.2 counted
  · intro agrees
    refine List.filter_congr fun i inside => ?_
    by_cases counted : i ∈ s.committedTasks
    · simp [counted, agrees i counted]
    · have unreported : ¬ s.isTaskReported i = true := fun reported =>
        counted (mem_committedTasks.mpr
          ⟨List.mem_range.mp inside, isTaskCommitted_of_reported reported⟩)
      simp [counted, unreported]

/-- A transfer records a side of a task as committed when it has a report of it. -/
theorem agrees_of_journey {legs : List Landing} (journey : Journey legs (some s)) : s.Agrees := by
  intro i counted
  obtain ⟨inside, committed⟩ := mem_committedTasks.mp counted
  obtain ⟨l, leg, input, output, commits⟩ := journey.keeps.recorded s rfl i inside committed
  have remembered := journey.keeps.remembers s rfl l leg i input output commits
  simp [isTaskReported, remembered.input_report, remembered.output_report]

end ResumeState

namespace Executor

variable {registry : Registry} {config : Config} {s : ResumeState} {d : Departure} {i : Nat}

/-- What becomes of a task when a transfer is resumed depends on whether it is reported. -/
theorem resumption_serves (departs : resumption registry config s = .ok d) (w : World)
    (inside : i < s.taskCount) :
    (s.isTaskReported i = true → ¬ (d.fly.run w).1.Launches i) ∧
      (s.isTaskReported i = false → (d.fly.run w).1.flight.progress.hasStarted = true →
        (d.fly.run w).1.Launches i ∨
          .ended (.failed i .cancelled) ∈ (d.fly.run w).1.flight.events) := by
  have settled := resumption_settles departs w
  have slot : ((List.range s.taskCount).map (Progress.resumedSlot s))[i]? =
      some (Progress.resumedSlot s i) := by
    rw [List.getElem?_map, List.getElem?_range inside, Option.map_some]
  constructor
  · intro reported
    exact (settled.kept i _ slot ((s.isCommitted_resumedSlot i).trans reported)).2
  · intro unreported started
    exact (settled.served started i _ slot ((s.isCommitted_resumedSlot i).trans unreported)).2

/-- For every state: a transfer resumed from it has to run, in order, the tasks that are not reported
on both sides. These are the tasks that the state does not count as committed if both its readers agree,
and only then; on a state that a transfer has left they do. A reported task is not launched; every other
one is launched, or was cancelled, once tasks are. -/
theorem resumed_transfer_runs_unreported_tasks (s : ResumeState) :
    (Progress.resumed s).pendingTasks =
        (List.range s.taskCount).filter (fun i => !s.isTaskReported i) ∧
      ((Progress.resumed s).pendingTasks =
        (List.range s.taskCount).filter (fun i => i ∉ s.committedTasks) ↔ s.Agrees) ∧
      (∀ legs, Journey legs (some s) → s.Agrees) ∧
      ∀ registry config d w, resumption registry config s = .ok d → ∀ i < s.taskCount,
        (s.isTaskReported i = true → ¬ (d.fly.run w).1.Launches i) ∧
          (s.isTaskReported i = false → (d.fly.run w).1.flight.progress.hasStarted = true →
            (d.fly.run w).1.Launches i ∨
              .ended (.failed i .cancelled) ∈ (d.fly.run w).1.flight.events) :=
  ⟨s.pendingTasks_resumed, s.pendingTasks_eq_iff, fun _ journey => ResumeState.agrees_of_journey journey,
    fun _ _ _ w departs _ inside => resumption_serves departs w inside⟩

section Rehearsed

open Journey (oneTask twoTasks launches launches_of_any)

/-- The second of two tasks fails at first. When the transfer is resumed, it is the one to run. -/
theorem failed_task_is_pending : ∃ first saved d, Journey [first] (some saved) ∧
    (Progress.resumed saved).pendingTasks =
      (List.range saved.taskCount).filter (fun i => i ∉ saved.committedTasks) ∧
    resumption (Rehearsal.registry {}) twoTasks saved = .ok d ∧ ¬ (d.fly.run default).1.Launches 0 ∧
    ((d.fly.run default).1.Launches 1 ∨
      .ended (.failed 1 .cancelled) ∈ (d.fly.run default).1.flight.events) := by
  have rehearsed : ((departure (Rehearsal.registry { badRows := [1] }) twoTasks).toOption.any
      fun d => ((d.fly.run default).1.stateAfter none).any fun saved =>
        saved.taskCount == 2 && saved.isTaskReported 0 && !saved.isTaskReported 1 &&
          (resumption (Rehearsal.registry {}) twoTasks saved).toOption.any
            fun d => (d.fly.run default).1.flight.progress.hasStarted) = true := by decide +kernel
  cases hd : departure (Rehearsal.registry { badRows := [1] }) twoTasks with
  | error e => simp [hd, Except.toOption] at rehearsed
  | ok d =>
    simp only [hd, Except.toOption, Option.any_some] at rehearsed
    cases hs : (d.fly.run default).1.stateAfter none with
    | none => simp [hs] at rehearsed
    | some saved =>
      simp only [hs, Option.any_some, Bool.and_eq_true, beq_iff_eq, Bool.not_eq_eq_eq_not,
        Bool.not_true] at rehearsed
      obtain ⟨⟨⟨count, reported⟩, unreported⟩, rehearsed⟩ := rehearsed
      cases hr : resumption (Rehearsal.registry {}) twoTasks saved with
      | error e => simp [hr] at rehearsed
      | ok resumed =>
        simp only [hr, Option.any_some] at rehearsed
        have begun := Journey.begun default hd
        rw [hs] at begun
        obtain ⟨-, agree, left, serves⟩ := resumed_transfer_runs_unreported_tasks saved
        have served := serves (Rehearsal.registry {}) twoTasks resumed default hr
        exact ⟨_, saved, resumed, begun, agree.mpr (left _ begun), hr,
          (served 0 (by omega)).1 reported, (served 1 (by omega)).2 unreported rehearsed⟩

/-- The only task has committed on both sides and left no report. -/
def silentState : ResumeState where
  runId := "r"
  execConfig := .empty
  inputTask := ⟨[("rows", .ofNat 1)]⟩
  inputSchema := Rehearsal.schema
  outputTask := ⟨[("target", .str "memory")]⟩
  outputSchema := Rehearsal.schema
  filterTasks := []
  filterSchemas := []
  taskCount := 1
  tasks := [⟨.input, 0, true, .empty, none⟩, ⟨.output, 0, true, .empty, none⟩]

def silentText : String :=
  "run_id: r\nexec_config: \x7b\x7d\ninput_task:\n  rows: 1\ninput_schema:\n- index: 0\n  name: id\n" ++
    "  type: long\noutput_task:\n  target: memory\noutput_schema:\n- index: 0\n  name: id\n  type: long\n" ++
    "filter_tasks: []\nfilter_schemas: []\ntask_count: 1\ntasks:\n- phase: input\n  index: 0\n" ++
    "  committed: true\n  task_source: \x7b\x7d\n- phase: output\n  index: 0\n  committed: true\n" ++
    "  task_source: \x7b\x7d\n"

theorem silent_reads : Tree.ofYaml ResumeState.form silentState.yaml = .ok silentState.toTree := by
  have written : silentState.yaml = silentText := by decide +kernel
  rw [written]
  unfold Tree.ofYaml Yaml.LinkedDocument.ofText Yaml.Token.ofText silentText
  dsimp only
  rw [← String.length_toList]
  simp only [String.toList_append]
  repeat rw [String.toList_ofList]
  decide +kernel

theorem silent_readsBack :
    rehearsedStore.reading (.ok silentState.yaml) = .ok (some silentState) := by
  have fits : silentState.IsCountable := by
    have columns : Rehearsal.schema.IsCountable := show Rehearsal.schema.size < wordCount by decide
    refine ⟨by decide, ?_, columns, by nofun, columns⟩
    intro r mem
    rcases List.mem_pair.mp mem with rfl | rfl
    · exact Nat.two_pow_pos 64
    · exact Nat.two_pow_pos 64
  exact ResumeState.reading_yaml rehearsedStore fits silent_reads

/-- A store gives the state, which counts its task as committed; the resumed transfer launches it. -/
theorem silent_commit_is_run_again :
    (rehearsedStore.load.run ((rehearsedStore.save silentState).run default).2).1 =
        .ok (some silentState) ∧
      silentState.committedTasks = [0] ∧ (Progress.resumed silentState).pendingTasks = [0] ∧
      ∃ d, resumption (Rehearsal.registry {}) oneTask silentState = .ok d ∧
        (d.fly.run default).1.Launches 0 := by
  have saves : rehearsedStore.Saves silentState default := ⟨by decide, silent_readsBack⟩
  have loads := StateStore.loads_of_heldOn saves.kept (by decide +kernel)
  refine ⟨loads.told, by decide, by decide, ?_⟩
  have rehearsed : ((resumption (Rehearsal.registry {}) oneTask silentState).toOption.any
      fun d => launches 0 (d.fly.run default).1) = true := by decide +kernel
  cases departs : resumption (Rehearsal.registry {}) oneTask silentState with
  | error e => simp [departs, Except.toOption] at rehearsed
  | ok d =>
    simp only [departs, Except.toOption, Option.any_some] at rehearsed
    exact ⟨d, rfl, launches_of_any rehearsed⟩

end Rehearsed

end Executor

end BulkTransfer
