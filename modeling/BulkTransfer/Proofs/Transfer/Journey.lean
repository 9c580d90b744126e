import BulkTransfer.Proofs.Transfer.Flight
import BulkTransfer.Rehearsal.Plugins
/-!
# Journeys

A transfer that fails in part is resumed from the state it left, as often as it takes; plugins,
configs and worlds may be others each time. What a task has committed with stays in the state from
attempt to attempt, and the task is not launched again.
-/
namespace BulkTransfer

namespace Landing

/-- The state that is there to resume from after an attempt, given the one from before. -/
def stateAfter (l : Landing) (held : Option ResumeState) : Option ResumeState :=
  match l.conclude with
  | .ok _ => none
  | .error (.partiallyFailed state _ _) => some state
  | .error _ => held

/-- The attempt recorded that both sides of a task committed, with these reports. -/
def Commits (l : Landing) (i : Nat) (input output : Report) : Prop :=
  ∃ error, .ended ⟨i, some input, some output, error⟩ ∈ l.flight.events

def Launches (l : Landing) (i : Nat) : Prop := .launched i ∈ l.flight.events

theorem stateAfter_some {l : Landing} {held : Option ResumeState} {s : ResumeState}
    (h : l.stateAfter held = some s) :
    l.resumeState? = some s ∨ l.resumeState? = none ∧ held = some s := by
  unfold stateAfter conclude at h
  cases hr : l.result with
  | ok diff => simp [hr] at h
  | error e =>
    cases hs : l.resumeState? with
    | none => exact .inr ⟨rfl, by simpa [hr, hs] using h⟩
    | some state => exact .inl (by simpa [hr, hs] using h)

theorem resumeState?_of_conclude {l : Landing} {s : ResumeState} {cause : TaskError}
    {suppressed : List ExecutionError}
    (h : l.conclude = .error (.partiallyFailed s cause suppressed)) : l.resumeState? = some s := by
  have after : l.stateAfter none = some s := by rw [stateAfter, h]
  rcases stateAfter_some after with found | ⟨-, none⟩
  · exact found
  · cases none

end Landing

/-- The attempts of a transfer in order, and the state that is there to resume from. -/
inductive Journey : List Landing → Option ResumeState → Prop where
  | begun {registry : Registry} {config : Config} {d : Departure} (w : World)
      (departs : Executor.departure registry config = .ok d) :
      Journey [(d.fly.run w).1] ((d.fly.run w).1.stateAfter none)
  | resumed {legs : List Landing} {saved : ResumeState} {registry : Registry} {config : Config}
      {d : Departure} (w : World) (before : Journey legs (some saved))
      (departs : Executor.resumption registry config saved = .ok d) :
      Journey (legs ++ [(d.fly.run w).1]) ((d.fly.run w).1.stateAfter (some saved))

/-- The state counts a task as committed on both sides, with these reports. A cleanup is given the
reports that the state has, in the order of the tasks. -/
structure ResumeState.Remembers (s : ResumeState) (i : Nat) (input output : Report) : Prop where
  index : i < s.taskCount
  committed : s.isTaskCommitted i = true
  input_report : s.reportAt .input i = some input
  output_report : s.reportAt .output i = some output
  cleanup : ∀ phase, s.phaseReports phase = (List.range s.taskCount).filterMap (s.reportAt phase)

/-- Everything an attempt says of a committed task says it with these reports: those that were handed
to the transactions, and the state that was left. -/
structure Landing.Shows (l : Landing) (i : Nat) (input output : Report) : Prop where
  inputs : ∀ reports, .reported .input reports ∈ l.flight.events → reports[i]? = some input
  outputs : ∀ reports, .reported .output reports ∈ l.flight.events → reports[i]? = some output
  left : ∀ state cause suppressed, l.conclude = .error (.partiallyFailed state cause suppressed) →
    state.Remembers i input output

section Slots

variable {l : Landing} {slots : List TaskSlot} {i : Nat} {input output : Report}
  {error : Option PluginError} {s : ResumeState}

theorem filterMap_range {α β : Type} (f : Nat → Option β) (view : α → Option β) (as : List α)
    (h : ∀ (i : Nat) (a : α), as[i]? = some a → f i = view a) :
    (List.range as.length).filterMap f = as.filterMap view := by
  induction as generalizing f with
  | nil => rfl
  | cons a as ih =>
    rw [List.length_cons, List.range_succ_eq_map, List.filterMap_cons, List.filterMap_cons,
      List.filterMap_map, h 0 a rfl, ih (f ∘ Nat.succ) fun i b hb => h (i + 1) b hb]

theorem Flight.Settled.taskCount (h : l.flight.Settled slots) (left : l.resumeState? = some s) :
    s.taskCount = l.flight.progress.slots.length := by
  rw [(Progress.resumeState?_some left).2.1, h.count, h.length]

theorem Flight.Settled.phaseReports (h : l.flight.Settled slots) (left : l.resumeState? = some s)
    (phase : TaskPhase) :
    s.phaseReports phase = (List.range s.taskCount).filterMap (s.reportAt phase) := by
  rw [ResumeState.phaseReports_eq left, h.taskCount left, filterMap_range _ (Progress.side phase)]
  exact fun i slot hi => ResumeState.reportAt_eq left hi phase

theorem Flight.Settled.remembers (h : l.flight.Settled slots) (left : l.resumeState? = some s)
    (slot : l.flight.progress.slots[i]? = some ⟨some input, some output, error⟩) :
    s.Remembers i input output := by
  refine ⟨?_, ?_, ?_, ?_, h.phaseReports left⟩
  · rw [h.taskCount left]
    exact (List.getElem?_eq_some_iff.mp slot).1
  · rw [ResumeState.isTaskCommitted_eq left slot]
    rfl
  · exact ResumeState.reportAt_eq left slot .input
  · exact ResumeState.reportAt_eq left slot .output

theorem Flight.Settled.shows (h : l.flight.Settled slots)
    (slot : l.flight.progress.slots[i]? = some ⟨some input, some output, error⟩) :
    l.Shows i input output := by
  have handed : ∀ phase reports, .reported phase reports ∈ l.flight.events →
      reports[i]? = Progress.side phase ⟨some input, some output, error⟩ := by
    intro phase reports hm
    have same := congrArg (·[i]?) (h.reported phase reports hm)
    simp only [List.getElem?_map, slot, Option.map_some] at same
    cases hr : reports[i]? with
    | none => simp [hr] at same
    | some report => simpa [hr] using same.symm
  refine ⟨handed .input, handed .output, ?_⟩
  intro state cause suppressed concluded
  exact h.remembers (Landing.resumeState?_of_conclude concluded) slot

/-- A state that remembers a task gives it the slot of a committed one. -/
theorem ResumeState.Remembers.slot (h : s.Remembers i input output) :
    ((List.range s.taskCount).map (Progress.resumedSlot s))[i]? =
      some ⟨some input, some output, none⟩ := by
  have reports : ∀ phase report, s.reportAt phase i = some report →
      (s.record? phase i).bind TaskRecord.report = some report := by
    intro phase report at_
    unfold ResumeState.reportAt at at_
    cases hr : s.record? phase i with
    | none => simp [hr] at at_
    | some r =>
      simp only [hr, Option.bind_some] at at_ ⊢
      split at at_
      · exact at_
      · cases at_
  rw [List.getElem?_map, List.getElem?_range h.index, Option.map_some, Progress.resumedSlot,
    if_pos h.committed]
  simp only [reports .input input h.input_report, reports .output output h.output_report]

end Slots

namespace Journey

variable {legs : List Landing} {held : Option ResumeState}

/-- The state that is held counts as committed exactly what some attempt has recorded so. -/
structure Keeps (legs : List Landing) (held : Option ResumeState) : Prop where
  remembers : ∀ s, held = some s → ∀ l ∈ legs, ∀ i input output, l.Commits i input output →
    s.Remembers i input output
  recorded : ∀ s, held = some s → ∀ i < s.taskCount, s.isTaskCommitted i = true →
    ∃ l ∈ legs, ∃ input output, l.Commits i input output

theorem commits_slot {l : Landing} {slots : List TaskSlot} (h : l.flight.Settled slots) {i : Nat}
    {input output : Report} (commits : l.Commits i input output) :
    ∃ error, l.flight.progress.slots[i]? = some ⟨some input, some output, error⟩ := by
  obtain ⟨error, ended⟩ := commits
  exact ⟨error, h.recorded _ ended⟩

/-- Once the attempt's own state counts a task as committed, the task was so from the start or the
attempt has recorded it. -/
theorem committed_origin {l : Landing} {slots : List TaskSlot} (h : l.flight.Settled slots)
    {s : ResumeState} (left : l.resumeState? = some s) {i : Nat} (inside : i < s.taskCount)
    (committed : s.isTaskCommitted i = true) :
    (∃ slot, slots[i]? = some slot ∧ slot.isCommitted = true) ∨
      ∃ input output, l.Commits i input output := by
  obtain ⟨started, count, -⟩ := Progress.resumeState?_some left
  rw [count, h.count] at inside
  have final : i < l.flight.progress.slots.length := by rwa [h.length]
  rw [ResumeState.isTaskCommitted_eq left (List.getElem?_eq_getElem final)] at committed
  cases before : slots[i].isCommitted with
  | true => exact .inl ⟨_, List.getElem?_eq_getElem inside, before⟩
  | false =>
    obtain ⟨⟨o, ended, rfl⟩, -⟩ := h.served started i _ (List.getElem?_eq_getElem inside) before
    have slot := h.recorded o ended
    rw [List.getElem?_eq_getElem final, Option.some.injEq] at slot
    rw [slot] at committed
    obtain ⟨index, input, output, error⟩ := o
    cases input with
    | none => cases committed
    | some input =>
      cases output with
      | none => cases committed
      | some output => exact .inr ⟨input, output, error, ended⟩

theorem resumed_slot {s : ResumeState} {i : Nat} {slot : TaskSlot}
    (h : ((List.range s.taskCount).map (Progress.resumedSlot s))[i]? = some slot)
    (committed : slot.isCommitted = true) : i < s.taskCount ∧ s.isTaskCommitted i = true := by
  obtain ⟨inside, rfl⟩ := List.getElem?_eq_some_iff.mp h
  rw [List.getElem_map, List.getElem_range, Progress.resumedSlot] at committed
  refine ⟨by simpa using inside, ?_⟩
  by_contra other
  rw [if_neg other] at committed
  cases committed

theorem keeps (journey : Journey legs held) : Keeps legs held := by
  induction journey with
  | @begun registry config d w departs =>
    obtain ⟨count, settled⟩ := Executor.departure_settles departs w
    refine ⟨?_, ?_⟩
    · intro s hs l hl i input output commits
      rw [List.mem_singleton.mp hl] at commits
      obtain ⟨error, slot⟩ := commits_slot settled commits
      rcases Landing.stateAfter_some hs with left | ⟨-, none⟩
      · exact settled.remembers left slot
      · cases none
    · intro s hs i inside committed
      rcases Landing.stateAfter_some hs with left | ⟨-, none⟩
      · rcases committed_origin settled left inside committed with ⟨slot, hi, blank⟩ | commits
        · obtain ⟨_, rfl⟩ := List.getElem?_eq_some_iff.mp hi
          rw [List.getElem_replicate] at blank
          cases blank
        · exact ⟨_, List.mem_singleton_self _, commits⟩
      · cases none
  | @resumed legs saved registry config d w before departs ih =>
    have settled := Executor.resumption_settles departs w
    refine ⟨?_, ?_⟩
    · intro s hs l hl i input output commits
      rcases Landing.stateAfter_some hs with left | ⟨none, same⟩
      · rcases List.mem_append.mp hl with hl | hl
        · have slot := (ih.remembers saved rfl l hl i input output commits).slot
          exact settled.remembers left (settled.kept i _ slot rfl).1
        · rw [List.mem_singleton.mp hl] at commits
          obtain ⟨error, slot⟩ := commits_slot settled commits
          exact settled.remembers left slot
      · rcases List.mem_append.mp hl with hl | hl
        · exact ih.remembers s same l hl i input output commits
        · rw [List.mem_singleton.mp hl] at commits
          obtain ⟨error, ended⟩ := commits
          exact absurd ended ((settled.idle (Landing.unstarted_of_none settled none)).2 _)
    · intro s hs i inside committed
      rcases Landing.stateAfter_some hs with left | ⟨-, same⟩
      · rcases committed_origin settled left inside committed with ⟨slot, hi, kept⟩ | commits
        · obtain ⟨within, known⟩ := resumed_slot hi kept
          obtain ⟨l, hl, commits⟩ := ih.recorded saved rfl i within known
          exact ⟨l, List.mem_append_left _ hl, commits⟩
        · exact ⟨_, List.mem_append_right _ (List.mem_singleton_self _), commits⟩
      · obtain ⟨l, hl, commits⟩ := ih.recorded s same i inside committed
        exact ⟨l, List.mem_append_left _ hl, commits⟩

/-- What the attempts of a journey show of a task that one of them has recorded as committed, and
what becomes of the tasks that none has. -/
structure Respects (legs : List Landing) : Prop where
  committed : ∀ (k n : Nat) (a b : Landing), legs[k]? = some a → legs[n]? = some b → k ≤ n →
    ∀ i input output, a.Commits i input output →
      (k < n → ¬ b.Launches i) ∧ b.Shows i input output
  uncommitted : ∀ (n : Nat) (b : Landing), legs[n]? = some b → b.flight.progress.hasStarted = true →
    ∀ i < b.flight.progress.taskCount,
      (∀ k < n, ∀ a, legs[k]? = some a → ∀ input output, ¬ a.Commits i input output) →
      b.Launches i ∨ .ended (.failed i .cancelled) ∈ b.flight.events

/-- An attempt's own slots decide what it shows of the tasks that it records. -/
theorem own_commits {l : Landing} {slots : List TaskSlot} (h : l.flight.Settled slots) {i : Nat}
    {input output : Report} (commits : l.Commits i input output) : l.Shows i input output := by
  obtain ⟨error, slot⟩ := commits_slot h commits
  exact h.shows slot

theorem uncommitted_served {l : Landing} {slots : List TaskSlot} (h : l.flight.Settled slots)
    (started : l.flight.progress.hasStarted = true) {i : Nat}
    (inside : i < l.flight.progress.taskCount)
    (open_ : ∀ slot, slots[i]? = some slot → slot.isCommitted = false) :
    l.Launches i ∨ .ended (.failed i .cancelled) ∈ l.flight.events := by
  rw [h.count] at inside
  have slot := List.getElem?_eq_getElem inside
  exact (h.served started i _ slot (open_ _ slot)).2

/-- The last of some attempts is where the others end. -/
theorem getElem?_concat (legs : List Landing) {last l : Landing} {n : Nat}
    (h : (legs ++ [last])[n]? = some l) :
    legs[n]? = some l ∧ n < legs.length ∨ l = last ∧ n = legs.length := by
  by_cases inside : n < legs.length
  · rw [List.getElem?_append_left inside] at h
    exact .inl ⟨h, inside⟩
  · have bound := (List.getElem?_eq_some_iff.mp h).1
    rw [List.length_append, List.length_singleton] at bound
    obtain rfl : n = legs.length := by omega
    rw [List.getElem?_concat_length, Option.some.injEq] at h
    exact .inr ⟨h.symm, rfl⟩

/-- Of all attempts of a transfer, however its tasks end and in whatever order: a task that was
recorded as committed is launched by no later attempt, and every later report list, state and cleanup
has the reports that it committed with; any other task is launched by every attempt that reaches its
tasks, or was cancelled. -/
theorem committed_tasks_are_never_run_again (journey : Journey legs held) : Respects legs := by
  induction journey with
  | @begun registry config d w departs =>
    obtain ⟨count, settled⟩ := Executor.departure_settles departs w
    refine ⟨?_, ?_⟩
    · intro k n a b ha hb le i input output commits
      rcases getElem?_concat [] ha with ⟨none, -⟩ | ⟨rfl, rfl⟩
      · cases none
      · rcases getElem?_concat [] hb with ⟨none, -⟩ | ⟨rfl, rfl⟩
        · cases none
        · exact ⟨fun lt => absurd lt (Nat.lt_irrefl _), own_commits settled commits⟩
    · intro n b hb started i inside _
      rcases getElem?_concat [] hb with ⟨none, -⟩ | ⟨rfl, rfl⟩
      · cases none
      · refine uncommitted_served settled started inside fun slot hi => ?_
        obtain ⟨_, rfl⟩ := List.getElem?_eq_some_iff.mp hi
        rw [List.getElem_replicate]
        rfl
  | @resumed legs saved registry config d w before departs ih =>
    have settled := Executor.resumption_settles departs w
    have kept := before.keeps
    refine ⟨?_, ?_⟩
    · intro k n a b ha hb le i input output commits
      rcases getElem?_concat legs hb with ⟨hb, inside⟩ | ⟨rfl, rfl⟩
      · rcases getElem?_concat legs ha with ⟨ha, -⟩ | ⟨rfl, rfl⟩
        · exact ih.committed k n a b ha hb le i input output commits
        · omega
      · rcases getElem?_concat legs ha with ⟨ha, -⟩ | ⟨rfl, rfl⟩
        · have remembers :=
            kept.remembers saved rfl a (List.mem_of_getElem? ha) i input output commits
          obtain ⟨slot, launched⟩ := settled.kept i _ remembers.slot rfl
          exact ⟨fun _ => launched, settled.shows slot⟩
        · exact ⟨fun lt => absurd lt (Nat.lt_irrefl _), own_commits settled commits⟩
    · intro n b hb started i inside none
      rcases getElem?_concat legs hb with ⟨hb, within⟩ | ⟨rfl, rfl⟩
      · refine ih.uncommitted n b hb started i inside fun k hk a ha => ?_
        exact none k hk a (by rw [List.getElem?_append_left (by omega), ha])
      · refine uncommitted_served settled started inside fun slot hi => ?_
        by_contra committed
        obtain ⟨within, known⟩ := resumed_slot hi (by simpa using committed)
        obtain ⟨a, ha, input, output, commits⟩ := kept.recorded saved rfl i within known
        obtain ⟨k, hk, rfl⟩ := List.getElem_of_mem ha
        exact none k hk _ (by rw [List.getElem?_append_left hk, List.getElem?_eq_getElem hk])
          input output commits

section Rehearsed

/-- Two tasks of a rehearsed transfer. -/
def twoTasks : Config :=
  ⟨[("in", .obj [("type", .str "mock"), ("tasks", .ofNat 2)]), ("out", .obj [("type", .str "mock")])]⟩

def launches (i : Nat) (l : Landing) : Bool :=
  l.flight.events.any fun
    | .launched index => index = i
    | _ => false

def commits (i : Nat) (l : Landing) : Bool :=
  l.flight.events.any fun
    | .ended o => o.index = i && o.inputReport.isSome && o.outputReport.isSome
    | _ => false

theorem launches_of_any {i : Nat} {l : Landing} (h : launches i l = true) : l.Launches i := by
  obtain ⟨event, hm, he⟩ := List.any_eq_true.mp h
  cases event with
  | launched index => rwa [of_decide_eq_true he] at hm
  | ended o => cases he
  | reported phase reports => cases he

theorem commits_of_any {i : Nat} {l : Landing} (h : commits i l = true) :
    ∃ input output, l.Commits i input output := by
  obtain ⟨event, hm, he⟩ := List.any_eq_true.mp h
  match event, he, hm with
  | .ended ⟨index, some input, some output, error⟩, he, hm =>
    simp only [Option.isSome_some, Bool.and_true, decide_eq_true_eq] at he
    exact ⟨input, output, error, he ▸ hm⟩
  | .ended ⟨index, none, output, error⟩, he, _ => simp at he
  | .ended ⟨index, some input, none, error⟩, he, _ => simp at he

/-- The second of two tasks fails at first; only this one is run when the transfer is resumed. -/
theorem resumed_run_leaves_committed_task :
    ∃ first second held input output, Journey [first, second] held ∧ first.Commits 0 input output ∧
      second.Launches 1 ∧ ¬ second.Launches 0 ∧ second.Shows 0 input output := by
  have rehearsed : ((Executor.departure (Rehearsal.registry { badRows := [1] }) twoTasks).toOption.any
      fun d => commits 0 (d.fly.run default).1 &&
        ((d.fly.run default).1.stateAfter none).any fun saved =>
          (Executor.resumption (Rehearsal.registry {}) twoTasks saved).toOption.any
            fun d => launches 1 (d.fly.run default).1) = true := by decide +kernel
  cases hd : Executor.departure (Rehearsal.registry { badRows := [1] }) twoTasks with
  | error e => simp [hd, Except.toOption] at rehearsed
  | ok d =>
    simp only [hd, Except.toOption, Option.any_some, Bool.and_eq_true] at rehearsed
    obtain ⟨first, rehearsed⟩ := rehearsed
    cases hs : (d.fly.run default).1.stateAfter none with
    | none => simp [hs] at rehearsed
    | some saved =>
      simp only [hs, Option.any_some] at rehearsed
      cases hr : Executor.resumption (Rehearsal.registry {}) twoTasks saved with
      | error e => simp [hr] at rehearsed
      | ok resumed =>
        simp only [hr, Option.any_some] at rehearsed
        have begun := Journey.begun default hd
        rw [hs] at begun
        have journey := Journey.resumed default begun hr
        obtain ⟨input, output, committed⟩ := commits_of_any first
        obtain ⟨unlaunched, shows⟩ := (committed_tasks_are_never_run_again journey).committed
          0 1 _ _ rfl rfl (Nat.zero_le 1) 0 input output committed
        exact ⟨_, _, _, input, output, journey, committed, launches_of_any rehearsed,
          unlaunched Nat.zero_lt_one, shows⟩

end Rehearsed

end Journey

end BulkTransfer
