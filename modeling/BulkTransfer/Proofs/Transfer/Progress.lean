import BulkTransfer.Transfer.Progress
import Mathlib.Data.List.Nodup
/-!
# Slots, reports and resume states

What recorded outcomes leave in the slots of a transfer, what its reports are, and that a resume
state holds exactly the slots it was made from.
-/
namespace BulkTransfer

namespace Progress

variable {p : Progress} {i : Nat} {slot : TaskSlot} {o : TaskOutcome} {outcomes : List TaskOutcome}

section Recording

def recordAll (p : Progress) (outcomes : List TaskOutcome) : Progress := outcomes.foldl record p

/-- Recording changes nothing but slots, and not how many there are. -/
theorem recordAll_frame (p : Progress) (outcomes : List TaskOutcome) :
    p.recordAll outcomes = { p with slots := (p.recordAll outcomes).slots } ∧
      (p.recordAll outcomes).slots.length = p.slots.length := by
  induction outcomes generalizing p with
  | nil => exact ⟨rfl, rfl⟩
  | cons o rest ih =>
    obtain ⟨frame, length⟩ := ih (p.record o)
    refine ⟨?_, ?_⟩
    · rw [recordAll, List.foldl_cons, ← recordAll, frame]
      rfl
    · rw [recordAll, List.foldl_cons, ← recordAll, length, record, List.length_modify]

theorem recordAll_other (h : i ∉ outcomes.map TaskOutcome.index) :
    (p.recordAll outcomes).slots[i]? = p.slots[i]? := by
  induction outcomes generalizing p with
  | nil => rfl
  | cons o rest ih =>
    simp only [List.map_cons, List.mem_cons, not_or] at h
    rw [recordAll, List.foldl_cons, ← recordAll, ih h.2, record, List.getElem?_modify]
    simp [Ne.symm h.1]

/-- Each task's slot holds what its outcome says. -/
theorem recordAll_self (nodup : (outcomes.map TaskOutcome.index).Nodup) (ho : o ∈ outcomes)
    (inside : o.index < p.slots.length) :
    (p.recordAll outcomes).slots[o.index]? = some ⟨o.inputReport, o.outputReport, o.error⟩ := by
  induction outcomes generalizing p with
  | nil => simp at ho
  | cons first rest ih =>
    rw [List.map_cons, List.nodup_cons] at nodup
    rw [recordAll, List.foldl_cons, ← recordAll]
    rcases List.mem_cons.mp ho with rfl | ho
    · rw [recordAll_other nodup.1, record, List.getElem?_modify, List.getElem?_eq_getElem inside]
      simp
    · exact ih nodup.2 ho (by rwa [record, List.length_modify])

end Recording

section Pending

theorem mem_pendingTasks :
    i ∈ p.pendingTasks ↔ ∃ slot, p.slots[i]? = some slot ∧ slot.isCommitted = false := by
  simp only [pendingTasks, uncommitted, List.mem_map, List.mem_filter, Prod.exists,
    List.mem_zipIdx_iff_getElem?, Bool.not_eq_eq_eq_not, Bool.not_true]
  constructor
  · rintro ⟨slot, _, ⟨place, open_⟩, rfl⟩
    exact ⟨slot, place, open_⟩
  · rintro ⟨slot, place, open_⟩
    exact ⟨slot, i, ⟨place, open_⟩, rfl⟩

theorem pending_lt (h : i ∈ p.pendingTasks) : i < p.slots.length := by
  obtain ⟨slot, place, -⟩ := mem_pendingTasks.mp h
  exact (List.getElem?_eq_some_iff.mp place).1

theorem not_pending_of_committed (hi : p.slots[i]? = some slot) (committed : slot.isCommitted = true) :
    i ∉ p.pendingTasks := by
  intro pending
  obtain ⟨other, place, open_⟩ := mem_pendingTasks.mp pending
  rw [hi, Option.some.injEq] at place
  subst place
  rw [committed] at open_
  cases open_

theorem pendingTasks_ascending (p : Progress) : p.pendingTasks.Pairwise (· < ·) := by
  have indices : (p.slots.zipIdx.map Prod.snd).Pairwise (· < ·) := by
    rw [List.zipIdx_map_snd]
    exact List.pairwise_lt_range' 1
  exact indices.sublist ((List.filter_sublist).map Prod.snd)

theorem pendingTasks_nodup (p : Progress) : p.pendingTasks.Nodup :=
  p.pendingTasks_ascending.imp Nat.ne_of_lt

theorem committed_of_failedCount (h : p.failedCount = 0) (hi : p.slots[i]? = some slot) :
    slot.isCommitted = true := by
  have none : p.pendingTasks = [] := by
    rw [pendingTasks, List.map_eq_nil_iff]
    exact List.eq_nil_of_length_eq_zero h
  cases committed : slot.isCommitted with
  | true => rfl
  | false =>
    have pending := mem_pendingTasks.mpr ⟨slot, hi, committed⟩
    rw [none] at pending
    cases pending

end Pending

section Reports

def side : TaskPhase → TaskSlot → Option Report
  | .input => TaskSlot.input
  | .output => TaskSlot.output

theorem mapM_reports {view : TaskSlot → Option Report} {slots : List TaskSlot} {start : Nat}
    {reports : List Report}
    (h : ((slots.zipIdx start).mapM fun (slot, index) =>
      match view slot with
      | some report => .ok report
      | none => .error (PluginError.other ("task " ++ toString index ++ " has no report")) :
      Attempt (List Report)) = .ok reports) :
    slots.map view = reports.map some := by
  induction slots generalizing start reports with
  | nil =>
    cases h
    rfl
  | cons slot rest ih =>
    rw [List.zipIdx_cons, List.mapM_cons] at h
    cases hv : view slot with
    | none =>
      simp only [hv] at h
      cases h
    | some report =>
      simp only [hv] at h
      cases hr : ((rest.zipIdx (start + 1)).mapM fun (slot, index) =>
          match view slot with
          | some report => .ok report
          | none => .error (PluginError.other ("task " ++ toString index ++ " has no report")) :
          Attempt (List Report)) with
      | error e =>
        erw [hr] at h
        cases h
      | ok others =>
        erw [hr] at h
        cases h
        rw [List.map_cons, List.map_cons, hv, ih hr]

/-- The reports of a side are those of its slots, one for each. -/
theorem reportsOf_ok {phase : TaskPhase} {reports : List Report}
    (h : p.reportsOf phase = .ok reports) : p.slots.map (side phase) = reports.map some := by
  cases phase with
  | input => exact mapM_reports h
  | output => exact mapM_reports h

end Reports

section Resuming

/-- The records of slots that start at a number. -/
def recordsFrom (inputTask outputTask : Task) (slots : List TaskSlot) (start : Nat) :
    List TaskRecord :=
  (slots.zipIdx start).flatMap fun (slot, index) => recordsOf inputTask outputTask slot index

variable {inputTask outputTask : Task} {slots : List TaskSlot} {start : Nat} {phase : TaskPhase}

theorem recordsFrom_index {r : TaskRecord} (h : r ∈ recordsFrom inputTask outputTask slots start) :
    start ≤ r.index := by
  simp only [recordsFrom, List.mem_flatMap, Prod.exists] at h
  obtain ⟨slot, index, place, made⟩ := h
  have bound := (List.mk_mem_zipIdx_iff_le_and_getElem?_sub.mp place).1
  simp only [recordsOf, List.mem_cons, List.not_mem_nil, or_false] at made
  rcases made with rfl | rfl
  · exact bound
  · exact bound

theorem recordsFrom_find (inputTask outputTask : Task) (phase : TaskPhase) (start : Nat)
    (h : slots[i]? = some slot) :
    ∃ task, (recordsFrom inputTask outputTask slots start).find?
        (fun r => r.phase = phase ∧ r.index = start + i) =
      some ⟨phase, start + i, (side phase slot).isSome, task, side phase slot⟩ := by
  induction slots generalizing start i with
  | nil => simp at h
  | cons first rest ih =>
    rw [recordsFrom, List.zipIdx_cons, List.flatMap_cons, ← recordsFrom, List.find?_append]
    cases i with
    | zero =>
      rw [List.getElem?_cons_zero, Option.some.injEq] at h
      subst h
      cases phase with
      | input => exact ⟨inputTask, by simp [recordsOf, side]⟩
      | output => exact ⟨outputTask, by simp [recordsOf, side]⟩
    | succ i =>
      obtain ⟨task, found⟩ := ih (start + 1) h
      refine ⟨task, ?_⟩
      have skipped : (recordsOf inputTask outputTask first start).find?
          (fun r => r.phase = phase ∧ r.index = start + (i + 1)) = none := by
        simp [recordsOf]
      rw [skipped, Option.none_or, show start + (i + 1) = start + 1 + i by omega, found]

theorem recordsFrom_sorted :
    (recordsFrom inputTask outputTask slots start).Pairwise fun a b => a.index ≤ b.index := by
  induction slots generalizing start with
  | nil => exact .nil
  | cons first rest ih =>
    rw [recordsFrom, List.zipIdx_cons, List.flatMap_cons, ← recordsFrom, List.pairwise_append]
    refine ⟨by simp [recordsOf], ih, ?_⟩
    intro a ha b hb
    have later := recordsFrom_index hb
    have first : a.index = start := by
      simp only [recordsOf, List.mem_cons, List.not_mem_nil, or_false] at ha
      rcases ha with rfl | rfl
      · rfl
      · rfl
    omega

/-- The committed records of a side are the reports that its slots have. -/
theorem recordsFrom_reports :
    ((recordsFrom inputTask outputTask slots start).filter
      fun r => r.phase = phase ∧ r.isCommitted).filterMap TaskRecord.report =
        slots.filterMap (side phase) := by
  induction slots generalizing start with
  | nil => rfl
  | cons first rest ih =>
    rw [recordsFrom, List.zipIdx_cons, List.flatMap_cons, ← recordsFrom, List.filter_append,
      List.filterMap_append, ih, ← List.singleton_append, List.filterMap_append]
    congr 1
    obtain ⟨input, output, error⟩ := first
    cases phase with
    | input => cases input <;> simp [recordsOf, side]
    | output => cases output <;> simp [recordsOf, side]

variable {runId : String} {execConfig : Config} {s : ResumeState}

/-- A resume state is there when tasks were launched, and is made of the slots. -/
theorem resumeState?_some (h : p.resumeState? runId execConfig = some s) :
    p.hasStarted = true ∧ s.taskCount = p.taskCount ∧
      s.tasks = recordsFrom s.inputTask s.outputTask p.slots 0 := by
  unfold resumeState? at h
  simp only [Bool.not_eq_eq_eq_not, Bool.not_true, Option.bind_eq_bind] at h
  split at h
  · cases h
  · rename_i started
    simp only [Option.bind_eq_some_iff, Option.some.injEq] at h
    obtain ⟨inputTask, -, outputTask, -, inputSchema, -, outputSchema, -, rfl⟩ := h
    exact ⟨by simpa using started, rfl, rfl⟩

/-- A resume state keeps what both sides have frozen. -/
theorem resumeState?_frozen (h : p.resumeState? runId execConfig = some s) :
    p.inputTask = some s.inputTask ∧ p.inputSchema = some s.inputSchema ∧
      p.outputTask = some s.outputTask ∧ p.outputSchema = some s.outputSchema := by
  unfold resumeState? at h
  simp only [Option.bind_eq_bind] at h
  split at h
  · cases h
  · simp only [Option.bind_eq_some_iff, Option.some.injEq] at h
    obtain ⟨inputTask, input, outputTask, output, inputSchema, columns, outputSchema, others, rfl⟩ := h
    exact ⟨input, columns, output, others⟩

end Resuming

end Progress

namespace ResumeState

/-- The report that a side of a task committed with. -/
def reportAt (s : ResumeState) (phase : TaskPhase) (index : Nat) : Option Report :=
  (s.record? phase index).bind fun r => if r.isCommitted then r.report else none

variable {p : Progress} {runId : String} {execConfig : Config} {s : ResumeState} {i : Nat}
  {slot : TaskSlot}

theorem record?_eq (h : p.resumeState? runId execConfig = some s) (hi : p.slots[i]? = some slot)
    (phase : TaskPhase) :
    ∃ task, s.record? phase i = some
      ⟨phase, i, (Progress.side phase slot).isSome, task, Progress.side phase slot⟩ := by
  obtain ⟨-, -, tasks⟩ := Progress.resumeState?_some h
  obtain ⟨task, found⟩ := Progress.recordsFrom_find s.inputTask s.outputTask phase 0 hi
  rw [Nat.zero_add] at found
  exact ⟨task, by rw [record?, tasks, found]⟩

theorem reportAt_eq (h : p.resumeState? runId execConfig = some s) (hi : p.slots[i]? = some slot)
    (phase : TaskPhase) : s.reportAt phase i = Progress.side phase slot := by
  obtain ⟨task, found⟩ := record?_eq h hi phase
  rw [reportAt, found]
  cases Progress.side phase slot <;> rfl

theorem isTaskCommitted_eq (h : p.resumeState? runId execConfig = some s)
    (hi : p.slots[i]? = some slot) : s.isTaskCommitted i = slot.isCommitted := by
  obtain ⟨_, input⟩ := record?_eq h hi .input
  obtain ⟨_, output⟩ := record?_eq h hi .output
  simp only [isTaskCommitted, List.all_cons, List.all_nil, input, output, Option.any_some,
    Bool.and_true, Progress.side]
  rfl

/-- A resumed transfer starts from the slots that the state was made of, without those of tasks that
did not commit. -/
theorem resumedSlot_eq (h : p.resumeState? runId execConfig = some s)
    (hi : p.slots[i]? = some slot) :
    Progress.resumedSlot s i =
      if slot.isCommitted then { slot with error := none } else .blank := by
  obtain ⟨_, input⟩ := record?_eq h hi .input
  obtain ⟨_, output⟩ := record?_eq h hi .output
  simp only [Progress.resumedSlot, isTaskCommitted_eq h hi, input, output]
  rfl

/-- A cleanup is given the reports of a side in the order of the tasks. -/
theorem phaseReports_eq (h : p.resumeState? runId execConfig = some s) (phase : TaskPhase) :
    s.phaseReports phase = p.slots.filterMap (Progress.side phase) := by
  obtain ⟨-, -, tasks⟩ := Progress.resumeState?_some h
  rw [phaseReports, List.mergeSort_of_pairwise, tasks]
  · exact Progress.recordsFrom_reports
  · rw [tasks]
    refine (Progress.recordsFrom_sorted.filter _).imp ?_
    intro a b hab
    simpa using hab

end ResumeState

end BulkTransfer
