import BulkTransfer.Proofs.Transfer.Freezing
import BulkTransfer.Proofs.Transfer.Journey
/-!
# The report of a failure

A transfer whose tasks were launched and whose transaction fails is reported with a cause, with what it
suppresses and with a state. All of it is said here from what was known of the tasks before they were
launched and from the outcomes that were recorded since: of each task the last one counts.
-/
namespace BulkTransfer

namespace TaskOutcome

def slot (o : TaskOutcome) : TaskSlot := ⟨o.inputReport, o.outputReport, o.error⟩

/-- The last outcome of a task. -/
def last? (outcomes : List TaskOutcome) (i : Nat) : Option TaskOutcome :=
  outcomes.reverse.find? fun o => o.index = i

variable {outcomes : List TaskOutcome} {o : TaskOutcome} {i : Nat}

theorem last?_concat (outcomes : List TaskOutcome) (o : TaskOutcome) (i : Nat) :
    last? (outcomes ++ [o]) i = if o.index = i then some o else last? outcomes i := by
  rw [last?, List.reverse_append, List.reverse_singleton, List.singleton_append, List.find?_cons]
  by_cases same : o.index = i
  · simp [same]
  · simp [same, last?]

theorem last?_some (h : last? outcomes i = some o) : o ∈ outcomes ∧ o.index = i :=
  ⟨List.mem_reverse.mp (List.mem_of_find?_eq_some h), by simpa using List.find?_some h⟩

theorem last?_none (h : last? outcomes i = none) (ho : o ∈ outcomes) : o.index ≠ i := by
  simpa using List.find?_eq_none.mp h o (List.mem_reverse.mpr ho)

end TaskOutcome

namespace TaskSlot

/-- What is known of a task in the end. -/
def after (before : List TaskSlot) (outcomes : List TaskOutcome) (i : Nat) : TaskSlot :=
  match TaskOutcome.last? outcomes i with
  | some o => o.slot
  | none => before.getD i .blank

/-- The error of a task that has not committed. -/
def failure (slot : TaskSlot) : PluginError := slot.error.getD (.other "task did not complete")

end TaskSlot

namespace Progress

variable {p : Progress} {outcomes : List TaskOutcome}

theorem getElem?_recordAll {i : Nat} {slot : TaskSlot} (h : p.slots[i]? = some slot) :
    (p.recordAll outcomes).slots[i]? = some (TaskSlot.after p.slots outcomes i) := by
  induction outcomes using List.reverseRecOn with
  | nil => simp [recordAll, TaskSlot.after, TaskOutcome.last?, List.getD_eq_getElem?_getD, h]
  | append_singleton outcomes o ih =>
    rw [recordAll, List.foldl_concat, ← recordAll, record, List.getElem?_modify, ih]
    by_cases same : o.index = i
    · simp [same, TaskSlot.after, TaskOutcome.last?_concat, TaskOutcome.slot]
    · simp [same, TaskSlot.after, TaskOutcome.last?_concat]

theorem slots_recordAll (p : Progress) (outcomes : List TaskOutcome) :
    (p.recordAll outcomes).slots = (List.range p.slots.length).map (TaskSlot.after p.slots outcomes) := by
  refine List.ext_getElem? fun i => ?_
  by_cases inside : i < p.slots.length
  · rw [getElem?_recordAll (List.getElem?_eq_getElem inside), List.getElem?_map,
      List.getElem?_range inside, Option.map_some]
  · have length := (p.recordAll_frame outcomes).2
    rw [List.getElem?_eq_none (by omega), List.getElem?_eq_none (by simp; omega)]

/-- The places of things that are listed by their numbers are these numbers. -/
theorem zipIdx_map_range {α : Type} (f : Nat → α) (n : Nat) :
    ((List.range n).map f).zipIdx = (List.range n).map fun i => (f i, i) := by
  refine List.ext_getElem (by simp) fun i _ _ => ?_
  simp

variable {f : Nat → TaskSlot} {n : Nat}

/-- The failures are those of the tasks that have not committed, in the order of the tasks. -/
theorem taskErrors_eq (slots : p.slots = (List.range n).map f) :
    p.taskErrors = ((List.range n).filter fun i => !(f i).isCommitted).map
      fun i => ⟨some i, (f i).failure⟩ := by
  have waiting : p.uncommitted =
      ((List.range n).filter fun i => !(f i).isCommitted).map fun i => (f i, i) := by
    rw [uncommitted, slots, zipIdx_map_range, List.filter_map]
    rfl
  rw [taskErrors, waiting, List.map_map]
  rfl

theorem recordsFrom_eq (slots : p.slots = (List.range n).map f) (inputTask outputTask : Task) :
    recordsFrom inputTask outputTask p.slots 0 =
      (List.range n).flatMap fun i => recordsOf inputTask outputTask (f i) i := by
  rw [recordsFrom, slots, zipIdx_map_range, List.flatMap_map]

theorem recordsFrom_takeTaskErrors (p : Progress) (inputTask outputTask : Task) :
    recordsFrom inputTask outputTask p.takeTaskErrors.2.slots 0 = recordsFrom inputTask outputTask p.slots 0 := by
  rw [takeTaskErrors, recordsFrom, recordsFrom, List.zipIdx_map, List.flatMap_map]
  refine List.flatMap_congr fun x _ => ?_
  obtain ⟨slot, index⟩ := x
  simp only [Prod.map_apply, id_eq]
  split
  · rfl
  · rfl

/-- The state has nothing to do with the errors, so it is the same when they have been taken out. -/
theorem resumeState?_takeTaskErrors (p : Progress) (runId : String) (execConfig : Config) :
    p.takeTaskErrors.2.resumeState? runId execConfig = p.resumeState? runId execConfig := by
  have records := p.recordsFrom_takeTaskErrors
  unfold recordsFrom at records
  unfold resumeState?
  simp only [records]
  rfl

end Progress

/-- The outcomes that a flight has recorded. -/
def Flight.outcomes (t : Flight) : List TaskOutcome :=
  t.events.filterMap fun
    | .ended o => some o
    | _ => none

theorem Flight.mem_outcomes {t : Flight} {o : TaskOutcome} : o ∈ t.outcomes ↔ .ended o ∈ t.events := by
  rw [outcomes, List.mem_filterMap]
  constructor
  · rintro ⟨event, mem, told⟩
    cases event with
    | ended o' =>
      cases told
      exact mem
    | launched i => cases told
    | reported side reports => cases told
  · exact fun mem => ⟨_, mem, rfl⟩

theorem Flight.Settled.slots_eq {t : Flight} {slots : List TaskSlot} (h : t.Settled slots)
    (started : t.progress.hasStarted = true) :
    t.progress.slots = (List.range slots.length).map (TaskSlot.after slots t.outcomes) := by
  refine List.ext_getElem? fun i => ?_
  by_cases inside : i < slots.length
  · have slot := List.getElem?_eq_getElem inside
    rw [List.getElem?_map, List.getElem?_range inside, Option.map_some, TaskSlot.after]
    cases last : TaskOutcome.last? t.outcomes i with
    | some o =>
      obtain ⟨mem, rfl⟩ := TaskOutcome.last?_some last
      exact h.recorded o (Flight.mem_outcomes.mp mem)
    | none =>
      -- without an outcome a task had committed before
      have committed : slots[i].isCommitted = true := by
        by_contra waits
        obtain ⟨⟨o, ended, same⟩, -⟩ := h.served started i _ slot (by simpa using waits)
        exact TaskOutcome.last?_none last (Flight.mem_outcomes.mpr ended) same
      simpa [List.getD_eq_getElem?_getD, slot] using (h.kept i _ slot committed).1
  · rw [List.getElem?_eq_none (by rw [h.length]; omega), List.getElem?_eq_none (by simp; omega)]

namespace Landing

/-- A transfer whose tasks were launched has ended: this was known of the tasks before, and these
outcomes were recorded since. -/
inductive Launched : Landing → List TaskSlot → List TaskOutcome → Prop where
  | recorded {l : Landing} {p : Progress} {plugins : TransferPlugins} {plan : TaskPlan}
      {outcomes : List TaskOutcome} (sized : p.slots.length = p.taskCount)
      (planned : p.plan plugins = .ok plan)
      (ended : l.flight.progress = p.markStarted.recordAll outcomes) : Launched l p.slots outcomes
  | begun {registry : Registry} {config : Config} {d : Departure} (w : World)
      (departs : Executor.departure registry config = .ok d)
      (started : (d.fly.run w).1.flight.progress.hasStarted = true) :
      Launched (d.fly.run w).1
        (List.replicate (d.fly.run w).1.flight.progress.taskCount .blank)
        (d.fly.run w).1.flight.outcomes
  | resumed {registry : Registry} {config : Config} {saved : ResumeState} {d : Departure} (w : World)
      (departs : Executor.resumption registry config saved = .ok d)
      (started : (d.fly.run w).1.flight.progress.hasStarted = true) :
      Launched (d.fly.run w).1 (Progress.resumed saved).slots (d.fly.run w).1.flight.outcomes

variable {l : Landing} {before : List TaskSlot} {outcomes : List TaskOutcome} {e : PluginError}

theorem Launched.slots_eq (h : l.Launched before outcomes) :
    l.flight.progress.slots = (List.range before.length).map (TaskSlot.after before outcomes) := by
  cases h with
  | recorded sized planned ended => rw [ended, Progress.slots_recordAll]; rfl
  | begun w departs started =>
    obtain ⟨count, settled⟩ := Executor.departure_settles departs w
    have same : (_ : Flight).progress.taskCount = count := settled.count.trans List.length_replicate
    rw [same]
    exact settled.slots_eq started
  | resumed w departs started => exact (Executor.resumption_settles departs w).slots_eq started

theorem Launched.resumeState? (h : l.Launched before outcomes) : ∃ state, l.resumeState? = some state ∧
    state.taskCount = before.length := by
  have sized : l.resumeState?.isSome ∧ l.flight.progress.taskCount = before.length := by
    cases h with
    | recorded sized planned ended =>
      obtain ⟨frame, -⟩ := (_ : Progress).markStarted.recordAll_frame outcomes
      rw [Landing.resumeState?, ended, frame]
      exact ⟨Flight.resumable_of_plan planned _ _, sized.symm⟩
    | begun w departs started =>
      obtain ⟨count, settled⟩ := Executor.departure_settles departs w
      exact ⟨settled.resumable started _ _, List.length_replicate.symm⟩
    | resumed w departs started =>
      have settled := Executor.resumption_settles departs w
      exact ⟨settled.resumable started _ _, settled.count⟩
  obtain ⟨state, left⟩ := Option.isSome_iff_exists.mp sized.1
  exact ⟨state, left, (Progress.resumeState?_some left).2.1.trans sized.2⟩

/-- The tasks that have not committed on both sides, in order. -/
def failing (before : List TaskSlot) (outcomes : List TaskOutcome) : List Nat :=
  (List.range before.length).filter fun i => !(TaskSlot.after before outcomes i).isCommitted

def failureOf (before : List TaskSlot) (outcomes : List TaskOutcome) (i : Nat) : TaskError :=
  ⟨some i, (TaskSlot.after before outcomes i).failure⟩

/-- What the transaction has to say for itself: nothing when it says no more than that tasks have
failed. -/
def ownFailure : PluginError → List ExecutionError
  | .tasksFailed _ _ => []
  | e => [.plugin e]

/-- What a transfer that failed with `e` tells. -/
structure Reports (l : Landing) (before : List TaskSlot) (outcomes : List TaskOutcome) (e : PluginError)
    (state : ResumeState) (cause : TaskError) (suppressed : List ExecutionError) : Prop where
  told : l.conclude = .error (.partiallyFailed state cause suppressed)
  /-- When all tasks have committed, the transaction alone is to blame. -/
  whole : failing before outcomes = [] → cause = ⟨none, e⟩ ∧ suppressed = []
  /-- Otherwise the first task that has not; the others follow in order, and the transaction last. -/
  parts : ∀ first others, failing before outcomes = first :: others →
    cause = failureOf before outcomes first ∧
      suppressed = others.map (fun i => .task (failureOf before outcomes i)) ++ ownFailure e
  count : state.taskCount = before.length
  /-- There is one record for each side of each task, in order. -/
  records : state.tasks = (List.range before.length).flatMap fun i =>
    let slot := TaskSlot.after before outcomes i
    [⟨.input, i, slot.input.isSome, state.inputTask, slot.input⟩,
      ⟨.output, i, slot.output.isSome, state.outputTask, slot.output⟩]
  /-- The state is still the same when the errors have been taken out of the slots. -/
  taken : l.flight.progress.takeTaskErrors.2.resumeState? l.runId l.execConfig = some state

theorem blame_cons (f : Nat → TaskError) (first : Nat) {others : List Nat} (e : PluginError) :
    Executor.blame ((first :: others).map f) e =
      (f first, others.map (fun i => .task (f i)) ++ ownFailure e) := by
  rw [List.map_cons, Executor.blame, List.map_map]
  cases e <;> rfl

/-- Whatever outcomes were recorded and whatever the transaction has failed with: if tasks were launched,
the failure is reported exactly. -/
theorem failure_is_reported_exactly (launched : l.Launched before outcomes) (failed : l.result = .error e) :
    ∃ state cause suppressed, l.Reports before outcomes e state cause suppressed := by
  obtain ⟨state, left, count⟩ := launched.resumeState?
  have errors : l.flight.progress.taskErrors =
      (failing before outcomes).map (failureOf before outcomes) :=
    Progress.taskErrors_eq launched.slots_eq
  let blamed := Executor.blame ((failing before outcomes).map (failureOf before outcomes)) e
  have told : l.conclude = .error (.partiallyFailed state blamed.1 blamed.2) := by
    simp only [conclude, failed, left, errors, blamed]
  refine ⟨state, blamed.1, blamed.2, told, fun none => ?_, fun first others waiting => ?_, count, ?_, ?_⟩
  · simp only [blamed, none]
    exact ⟨rfl, rfl⟩
  · simp only [blamed, waiting, blame_cons, and_self]
  · rw [(Progress.resumeState?_some left).2.2]
    exact Progress.recordsFrom_eq launched.slots_eq _ _
  · exact (Progress.resumeState?_takeTaskErrors _ _ _).trans left

section FourTasks

open Journey (twoTasks)

def fourTasks : Progress :=
  (Progress.fresh.setInput .empty Progress.oneColumn 4).setOutput .empty .empty

/-- Of four tasks one has committed, one has done so on one side, one has failed at first and
then committed, and of one nothing was heard. -/
def heard : List TaskOutcome :=
  [.failed 3 .cancelled, ⟨1, some .empty, none, some (.other "full")⟩, ⟨0, some .empty, some .empty, none⟩,
    ⟨3, some .empty, some .empty, none⟩]

def lostConnection : Landing where
  runId := "r"
  execConfig := .empty
  flight := .ofProgress ⟨none, defaultPageSize⟩ (fourTasks.markStarted.recordAll heard)
  result := .error (.other "connection lost")
  metrics := .zero

theorem fourTasks_launched : lostConnection.Launched fourTasks.slots heard := by
  have planned : fourTasks.plan ⟨Rehearsal.input {}, .empty, [], Rehearsal.output {}, .empty⟩ = .ok _ := rfl
  exact .recorded rfl planned rfl

/-- The second of two rehearsed tasks fails, and the transaction has no more to say than that. -/
theorem rehearsed_failure : ∃ d, Executor.departure (Rehearsal.registry { badRows := [1] }) twoTasks = .ok d ∧
    (d.fly.run default).1.flight.progress.hasStarted = true ∧
    (d.fly.run default).1.result.toOption = none := by
  have rehearsed : ((Executor.departure (Rehearsal.registry { badRows := [1] }) twoTasks).toOption.any
      fun d => (d.fly.run default).1.flight.progress.hasStarted &&
        (d.fly.run default).1.result.toOption.isNone) = true := by decide +kernel
  cases departs : Executor.departure (Rehearsal.registry { badRows := [1] }) twoTasks with
  | error e => simp [departs, Except.toOption] at rehearsed
  | ok d =>
    simp only [departs, Except.toOption, Option.any_some, Bool.and_eq_true] at rehearsed
    exact ⟨d, rfl, rehearsed.1, Option.isNone_iff_eq_none.mp rehearsed.2⟩

/-- The task that was heard of last as half done is to blame, and the one that was not heard of did not
complete. A rehearsed failure is reported as well. -/
theorem lost_connection_is_suppressed : (∃ state, lostConnection.conclude =
    .error (.partiallyFailed state ⟨some 1, .other "full"⟩
      [.task ⟨some 2, .other "task did not complete"⟩, .plugin (.other "connection lost")]) ∧
    state.tasks.map (fun r => (r.index, r.phase, r.isCommitted)) =
      [(0, .input, true), (0, .output, true), (1, .input, true), (1, .output, false),
        (2, .input, false), (2, .output, false), (3, .input, true), (3, .output, true)]) ∧
    ∃ d e state cause suppressed,
      Executor.departure (Rehearsal.registry { badRows := [1] }) twoTasks = .ok d ∧
        (d.fly.run default).1.result = .error e ∧
        (d.fly.run default).1.Reports
          (List.replicate (d.fly.run default).1.flight.progress.taskCount .blank)
          (d.fly.run default).1.flight.outcomes e state cause suppressed := by
  constructor
  · obtain ⟨state, cause, suppressed, reports⟩ := failure_is_reported_exactly fourTasks_launched rfl
    have failing : failing fourTasks.slots heard = [1, 2] := by decide
    obtain ⟨rfl, rfl⟩ := reports.parts 1 [2] failing
    exact ⟨state, reports.told, by rw [reports.records]; rfl⟩
  · obtain ⟨d, departs, started, fails⟩ := rehearsed_failure
    cases failed : (d.fly.run default).1.result with
    | ok diff =>
      rw [failed] at fails
      cases fails
    | error e =>
      obtain ⟨state, cause, suppressed, reports⟩ :=
        failure_is_reported_exactly (.begun default departs started) failed
      exact ⟨d, e, state, cause, suppressed, departs, failed, reports⟩

end FourTasks

end Landing

end BulkTransfer
