import BulkTransfer.Proofs.Transfer.Journey
/-!
# What a state still knows of a task

On each side of a task a state knows what the last attempt that ended the task has recorded, whatever
the attempts before have. A side that has committed alone is therefore forgotten, and left out of the
cleanup, when a later attempt ends the task without it.
-/
namespace BulkTransfer

def TaskOutcome.report (o : TaskOutcome) : TaskPhase → Option Report
  | .input => o.inputReport
  | .output => o.outputReport

namespace Landing

variable {l : Landing} {slots : List TaskSlot} {s : ResumeState} {phase : TaskPhase}

def Ends (l : Landing) (o : TaskOutcome) : Prop := .ended o ∈ l.flight.events

/-- The state that an attempt leaves has what the attempt has recorded. -/
theorem reportAt_ended (settled : l.flight.Settled slots) (left : l.resumeState? = some s)
    {o : TaskOutcome} (ended : l.Ends o) : s.reportAt phase o.index = o.report phase := by
  rw [ResumeState.reportAt_eq left (settled.recorded o ended)]
  cases phase <;> rfl

/-- What an attempt has not ended had committed before it, and is kept. -/
theorem reportAt_kept (settled : l.flight.Settled slots) (left : l.resumeState? = some s) {i : Nat}
    (inside : i < s.taskCount) (never : ∀ o, l.Ends o → o.index ≠ i) :
    ∃ slot, slots[i]? = some slot ∧ slot.isCommitted = true ∧
      s.reportAt phase i = Progress.side phase slot := by
  obtain ⟨started, count, -⟩ := Progress.resumeState?_some left
  rw [count, settled.count] at inside
  have slot := List.getElem?_eq_getElem inside
  cases committed : slots[i].isCommitted with
  | false =>
    obtain ⟨⟨o, ended, same⟩, -⟩ := settled.served started i _ slot committed
    exact absurd same (never o ended)
  | true =>
    have kept := (settled.kept i _ slot committed).1
    exact ⟨_, slot, committed, ResumeState.reportAt_eq left kept phase⟩

end Landing

/-- A committed task goes on with the reports that the state has. -/
theorem ResumeState.side_resumedSlot {s : ResumeState} {i : Nat}
    (committed : s.isTaskCommitted i = true) (phase : TaskPhase) :
    Progress.side phase (Progress.resumedSlot s i) = s.reportAt phase i := by
  have recorded : ∀ phase, (s.record? phase i).any TaskRecord.isCommitted = true := by
    intro phase
    simp only [isTaskCommitted, List.all_cons, List.all_nil, Bool.and_true, Bool.and_eq_true]
      at committed
    cases phase
    · exact committed.1
    · exact committed.2
  have told : (s.record? phase i).bind TaskRecord.report = s.reportAt phase i := by
    have known := recorded phase
    unfold reportAt
    cases hr : s.record? phase i with
    | none => rfl
    | some r =>
      rw [hr, Option.any_some] at known
      rw [Option.bind_some, Option.bind_some, if_pos known]
  rw [Progress.resumedSlot, if_pos committed]
  cases phase
  · exact told
  · exact told

namespace Journey

variable {legs : List Landing} {s : ResumeState} {i : Nat} {o : TaskOutcome}

/-- Of the attempts that have ended a task, the last one has ended it so. -/
def LastEnds (legs : List Landing) (i : Nat) (o : TaskOutcome) : Prop :=
  ∃ earlier l later, legs = earlier ++ l :: later ∧ l.Ends o ∧ o.index = i ∧
    ∀ l' ∈ later, ∀ o', l'.Ends o' → o'.index ≠ i

theorem LastEnds.own {l : Landing} (ended : l.Ends o) : LastEnds (legs ++ [l]) o.index o :=
  ⟨legs, l, [], rfl, ended, rfl, by simp⟩

theorem LastEnds.later (h : LastEnds legs i o) {l : Landing}
    (never : ∀ o', l.Ends o' → o'.index ≠ i) : LastEnds (legs ++ [l]) i o := by
  obtain ⟨earlier, last, later, rfl, ended, same, none⟩ := h
  refine ⟨earlier, last, later ++ [l], by simp, ended, same, ?_⟩
  intro l' hm
  rcases List.mem_append.mp hm with hm | hm
  · exact none l' hm
  · rw [List.mem_singleton.mp hm]
    exact never

/-- Each side of every task is known as it was recorded last, and a cleanup is given the reports that
are known, in the order of the tasks. -/
structure Knows (legs : List Landing) (s : ResumeState) : Prop where
  last : ∀ i < s.taskCount, ∃ o, LastEnds legs i o ∧
    ∀ phase, s.reportAt phase i = o.report phase
  cleanup : ∀ phase, s.phaseReports phase =
    (List.range s.taskCount).filterMap (s.reportAt phase)

/-- What the last attempt that ended a task has recorded is all that the state knows of the task. -/
theorem state_knows_last_outcomes (journey : Journey legs (some s)) : Knows legs s := by
  generalize held : some s = state at journey
  induction journey generalizing s with
  | @begun registry config d w departs =>
    obtain ⟨count, settled⟩ := Executor.departure_settles departs w
    rcases Landing.stateAfter_some held.symm with left | ⟨-, none⟩
    · refine ⟨fun i inside => ?_, settled.phaseReports left⟩
      by_cases ends : ∃ o, (d.fly.run w).1.Ends o ∧ o.index = i
      · obtain ⟨o, ended, rfl⟩ := ends
        exact ⟨o, @LastEnds.own [] _ _ ended, fun _ => Landing.reportAt_ended settled left ended⟩
      · have never : ∀ o, (d.fly.run w).1.Ends o → o.index ≠ i := fun o ended same =>
          ends ⟨o, ended, same⟩
        obtain ⟨slot, blank, committed, -⟩ :=
          @Landing.reportAt_kept _ _ _ .input settled left i inside never
        obtain ⟨_, rfl⟩ := List.getElem?_eq_some_iff.mp blank
        rw [List.getElem_replicate] at committed
        cases committed
    · cases none
  | @resumed legs saved registry config d w before departs ih =>
    have settled := Executor.resumption_settles departs w
    have known := ih rfl
    rcases Landing.stateAfter_some held.symm with left | ⟨none, same⟩
    · refine ⟨fun i inside => ?_, settled.phaseReports left⟩
      by_cases ends : ∃ o, (d.fly.run w).1.Ends o ∧ o.index = i
      · obtain ⟨o, ended, rfl⟩ := ends
        exact ⟨o, .own ended, fun _ => Landing.reportAt_ended settled left ended⟩
      · have never : ∀ o, (d.fly.run w).1.Ends o → o.index ≠ i := fun o ended same =>
          ends ⟨o, ended, same⟩
        have kept : ∀ phase, i < saved.taskCount ∧ s.reportAt phase i = saved.reportAt phase i := by
          intro phase
          obtain ⟨slot, old, committed, told⟩ := Landing.reportAt_kept settled left inside never
          obtain ⟨within, counted⟩ := resumed_slot old committed
          obtain ⟨_, rfl⟩ := List.getElem?_eq_some_iff.mp old
          refine ⟨within, told.trans ?_⟩
          rw [List.getElem_map, List.getElem_range]
          exact ResumeState.side_resumedSlot counted phase
        obtain ⟨o, last, told⟩ := known.last i (kept .input).1
        exact ⟨o, last.later never, fun phase => (kept phase).2.trans (told phase)⟩
    · cases same
      refine ⟨fun i inside => ?_, known.cleanup⟩
      obtain ⟨o, last, told⟩ := known.last i inside
      refine ⟨o, last.later fun o' ended => ?_, told⟩
      exact absurd ended ((settled.idle (Landing.unstarted_of_none settled none)).2 o')

section Rehearsed

/-- One task of a rehearsed transfer. -/
def oneTask : Config :=
  ⟨[("in", .obj [("type", .str "mock"), ("tasks", .ofNat 1)]), ("out", .obj [("type", .str "mock")])]⟩

def endsWith (i : Nat) (input : Bool) (l : Landing) : Bool :=
  l.flight.events.any fun
    | .ended o => o.index = i && o.inputReport.isSome = input
    | _ => false

def failsInPart (l : Landing) : Bool :=
  match l.conclude with
  | .error (.partiallyFailed _ _ _) => true
  | _ => false

theorem ends_of_any {input : Bool} {l : Landing} (h : endsWith i input l = true) :
    ∃ o, l.Ends o ∧ o.index = i ∧ (o.report .input).isSome = input := by
  obtain ⟨event, hm, he⟩ := List.any_eq_true.mp h
  cases event with
  | ended o =>
    simp only [Bool.and_eq_true, decide_eq_true_eq] at he
    exact ⟨o, hm, he.1, he.2⟩
  | launched index => cases he
  | reported phase reports => cases he

/-- The output of a task fails to commit, and when the transfer is resumed it does not open. -/
theorem second_failure_rehearsed : ∃ first second s, Journey [first, second] (some s) ∧
    failsInPart first = true ∧ failsInPart second = true ∧ endsWith 0 true first = true ∧
      s.taskCount = 1 ∧ s.reportAt .input 0 = none := by
  have rehearsed : ((Executor.departure (Rehearsal.registry { refusals := [(.commit, [0])] })
      oneTask).toOption.any fun d => failsInPart (d.fly.run default).1 &&
        endsWith 0 true (d.fly.run default).1 &&
        ((d.fly.run default).1.stateAfter none).any fun saved =>
          (Executor.resumption (Rehearsal.registry { unopened := [0] }) oneTask saved).toOption.any
            fun d => failsInPart (d.fly.run default).1 &&
              ((d.fly.run default).1.stateAfter (some saved)).any fun s =>
                s.taskCount == 1 && (s.reportAt .input 0).isNone) = true := by decide +kernel
  cases hd : Executor.departure (Rehearsal.registry { refusals := [(.commit, [0])] }) oneTask with
  | error e => simp [hd, Except.toOption] at rehearsed
  | ok d =>
    simp only [hd, Except.toOption, Option.any_some, Bool.and_eq_true] at rehearsed
    obtain ⟨⟨fails, ends⟩, rehearsed⟩ := rehearsed
    cases hs : (d.fly.run default).1.stateAfter none with
    | none => simp [hs] at rehearsed
    | some saved =>
      simp only [hs, Option.any_some] at rehearsed
      cases hr : Executor.resumption (Rehearsal.registry { unopened := [0] }) oneTask saved with
      | error e => simp [hr] at rehearsed
      | ok resumed =>
        simp only [hr, Option.any_some, Bool.and_eq_true] at rehearsed
        obtain ⟨fails', rehearsed⟩ := rehearsed
        cases ht : (resumed.fly.run default).1.stateAfter (some saved) with
        | none => simp [ht] at rehearsed
        | some s =>
          simp only [ht, Option.any_some, Bool.and_eq_true, beq_iff_eq, Option.isNone_iff_eq_none]
            at rehearsed
          obtain ⟨count, forgotten⟩ := rehearsed
          have begun := Journey.begun default hd
          rw [hs] at begun
          have journey := Journey.resumed default begun hr
          rw [ht] at journey
          exact ⟨_, _, s, journey, fails, fails', ends, count, forgotten⟩

/-- A cleanup after both attempts is given nothing for the input, which the first one had
committed. -/
theorem second_failure_leaves_nothing_to_clean : ∃ first second s,
    Journey [first, second] (some s) ∧ endsWith 0 true first = true ∧ Knows [first, second] s ∧
      s.phaseReports .input = [] := by
  obtain ⟨first, second, s, journey, -, -, ends, count, forgotten⟩ := second_failure_rehearsed
  have known := state_knows_last_outcomes journey
  refine ⟨first, second, s, journey, ends, known, ?_⟩
  rw [known.cleanup, count]
  simp [forgotten]

/-- An input that has committed alone is not in the state any more when a later attempt fails to open
the output. -/
theorem lone_commit_is_forgotten : ∃ legs s, Journey legs (some s) ∧
    (∀ l ∈ legs, failsInPart l = true) ∧
      ¬ ∀ l ∈ legs, ∀ o, l.Ends o → ∀ phase, (o.report phase).isSome = true →
        (s.reportAt phase o.index).isSome = true := by
  obtain ⟨first, second, s, journey, fails, fails', ends, -, forgotten⟩ := second_failure_rehearsed
  refine ⟨[first, second], s, journey, ?_, fun never => ?_⟩
  · intro l hm
    rcases List.mem_pair.mp hm with rfl | rfl
    · exact fails
    · exact fails'
  · obtain ⟨o, ended, here, committed⟩ := ends_of_any ends
    have held := never first List.mem_cons_self o ended .input committed
    rw [here, forgotten] at held
    cases held

end Rehearsed

end Journey

end BulkTransfer
