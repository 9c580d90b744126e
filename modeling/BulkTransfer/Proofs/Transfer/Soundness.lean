import BulkTransfer.Proofs.Transfer.Attempts
import BulkTransfer.Proofs.Transfer.Charter
import BulkTransfer.Proofs.Transfer.Honesty
import BulkTransfer.Proofs.Transfer.Recollection
/-!
# No commit is reported falsely

Between the tasks of a transfer and what is told of it there are the transactions of the input, of each
filter and of the output, any of which may end early. As long as each of them fails when its control has
failed, a transfer that is told to be committed has committed all its tasks.
-/
namespace BulkTransfer

abbrev InputEvent := TransactionEvent InputRequest (Attempt (List Report)) (Attempt Report)

abbrev OutputEvent := TransactionEvent Task (Attempt (List Report)) (Attempt Report)

/-- What the output does, unless a filter before it ends without asking for its tasks to be run. -/
def TransferPlugins.outputEvent (plugins : TransferPlugins) (count : Nat) :
    List FilterChoice → Schema → World → Option OutputEvent
  | [], schema, w => some ((plugins.output.transaction plugins.outputConfig schema count).run w).1
  | f :: rest, schema, w =>
    match (f.plugin.transaction f.config schema).run w with
    | (.finished _, _) => none
    | (.called q _, w) => plugins.outputEvent count rest q.schema w

namespace Executor

/-- What the input of a transfer does, be it a fresh or a saved one. -/
def inputEvent (plugins : TransferPlugins) (saved : Option ResumeState) : World → InputEvent × World :=
  match saved with
  | none => (plugins.input.transaction plugins.inputConfig).run
  | some s => (plugins.input.resume s.inputTask s.inputSchema s.taskCount).run

/-- What the output does once the input has asked for its tasks to be run. A saved transfer has been through
its filters, and goes on only with as many tasks as it had. -/
def outputBehind (plugins : TransferPlugins) (saved : Option ResumeState) (q : InputRequest)
    (w : World) : Option OutputEvent :=
  match saved with
  | none => plugins.outputEvent q.taskCount plugins.filters q.schema w
  | some s =>
    if s.taskCount = q.taskCount then
      some ((plugins.output.resume s.outputTask s.outputSchema q.taskCount).run w).1
    else none

/-- What the output of a transfer does, if it is reached. -/
def outputEvent (plugins : TransferPlugins) (saved : Option ResumeState) (w : World) :
    Option OutputEvent :=
  match inputEvent plugins saved w with
  | (.finished _, _) => none
  | (.called q _, w) => outputBehind plugins saved q w

end Executor

section Flights

/-- The transaction of the output has done this, and has succeeded after all tasks have. -/
def Flight.OutputDone (t : Flight) : Option OutputEvent → Prop
  | none => t.outputDiff = none
  | some (.finished a) => ∃ diff, a = .ok diff ∧ t.outputDiff = some diff
  | some (.called _ resume) => t.progress.failedCount = 0 ∧
    ∃ reports, .reported .output reports ∈ t.events ∧
      ∃ w diff, ((resume (.ok reports)).run w).1 = .ok diff ∧ t.outputDiff = some diff

/-- Tasks are launched exactly when the output has asked for it. What goes well has gone well with the
output. -/
structure Flight.Follows (t : Flight) (event : Option OutputEvent) (r : Attempt Unit) : Prop where
  started : t.progress.hasStarted = true ↔ ∃ task resume, event = some (.called task resume)
  done : r = .ok () → t.OutputDone event

namespace Executor

variable {α Q R : Type} {plugins : TransferPlugins} {t : Flight} {w : World}

/-- A transaction finishes, or goes on with what its control has answered. -/
theorem Leads.around {tran : Transaction Q R α} {control : Q → Flying (Attempt R)}
    {S : Attempt α → Flight → World → Prop}
    (finished : ∀ a w', tran.run w = (.finished a, w') → S a t w')
    (called : ∀ q resume w', tran.run w = (.called q resume, w') →
      Leads (control q) t w' fun r t' w'' => S ((resume r).run w'').1 t' ((resume r).run w'').2) :
    Leads (tran.drive control) t w S := by
  unfold Leads
  rw [Transaction.run_drive]
  cases ran : tran.run w with
  | mk event w' =>
    cases event with
    | finished a => exact finished a w' ran
    | called q resume => exact called q resume w' ran

theorem runTasks_launches {plan : TaskPlan} (planned : t.progress.plan plugins = .ok plan) :
    Yields (runTasks plugins) t fun r t' => t'.progress.hasStarted = true ∧
      t'.outputDiff = t.outputDiff ∧ (r = .ok () → t'.progress.failedCount = 0) := by
  refine Yields.get_bind ?_
  rw [planned]
  refine Yields.get_bind (Yields.modify_bind (Yields.get_bind ?_))
  refine Yields.bind (P := fun _ t' => t'.progress.hasStarted = true ∧ t'.outputDiff = t.outputDiff)
    (Yields.action fun _ => ⟨rfl, rfl⟩) fun crew t' before => ?_
  refine Yields.modify_bind (Yields.get_bind ?_)
  have settled : (t'.settle crew).progress.hasStarted = true := by
    change (t'.progress.recordAll crew.outcomes).hasStarted = true
    rw [(t'.progress.recordAll_frame crew.outcomes).1]
    exact before.1
  dsimp only
  split
  · rename_i none
    exact Yields.pure ⟨settled, before.2, fun _ => none⟩
  · exact Yields.pure ⟨settled, before.2, fun failed => by cases failed⟩

/-- What is handed over stays known. -/
theorem handOver_tells (side : TaskPhase) : Yields (handOver side) t fun r t' =>
    t'.progress = t.progress ∧ t'.outputDiff = t.outputDiff ∧ t.events ⊆ t'.events ∧
      ∀ reports, r = .ok reports → .reported side reports ∈ t'.events := by
  refine Yields.get_bind ?_
  cases t.progress.reportsOf side with
  | error e => exact Yields.pure ⟨rfl, rfl, fun _ hm => hm, fun _ failed => by cases failed⟩
  | ok reports =>
    refine Yields.modify_bind (Yields.pure ⟨rfl, rfl, List.subset_append_left _ _, ?_⟩)
    rintro _ ⟨⟩
    exact List.mem_append_right _ (List.mem_singleton_self _)

/-- Both sides of the input are known. -/
def HasInput (t : Flight) : Prop := t.progress.inputTask.isSome ∧ t.progress.inputSchema.isSome

theorem outputControl_launches (input : HasInput t) (schema : Schema) (task : Task) :
    Yields (outputControl plugins schema task) t fun r t' => t'.progress.hasStarted = true ∧
      t'.outputDiff = t.outputDiff ∧
        ∀ reports, r = .ok reports → t'.progress.failedCount = 0 ∧ .reported .output reports ∈ t'.events := by
  obtain ⟨plan, planned⟩ : ∃ plan, (t.progress.setOutput task schema).plan plugins = .ok plan := by
    obtain ⟨inputTask, given⟩ := Option.isSome_iff_exists.mp input.1
    obtain ⟨inputSchema, shaped⟩ := Option.isSome_iff_exists.mp input.2
    simp [Progress.plan, Progress.setOutput, given, shaped]
  refine Yields.modify_bind (Yields.bind (runTasks_launches planned) fun result t' ran => ?_)
  obtain ⟨started, diff, none⟩ := ran
  cases result with
  | error e => exact Yields.pure ⟨started, diff, fun _ failed => by cases failed⟩
  | ok _ =>
    refine (handOver_tells .output).mono fun r t'' told => ?_
    obtain ⟨same, diff', -, given⟩ := told
    exact ⟨same ▸ started, diff'.trans diff, fun reports ok => ⟨same ▸ none rfl, given reports ok⟩⟩

theorem runOutput_follows (isResuming : Bool) (schema : Schema) (input : HasInput t)
    (unstarted : t.progress.hasStarted = false)
    (honest : (outputTransaction plugins isResuming schema t.progress).IsHonest) :
    Leads (runOutput plugins isResuming schema) t w fun r t' _ =>
      t'.Follows (some ((outputTransaction plugins isResuming schema t.progress).run w).1) r := by
  refine Leads.get_bind (Leads.bind (P := fun r t' _ => (t'.progress.hasStarted = true ↔
      ∃ task resume, some ((outputTransaction plugins isResuming schema t.progress).run w).1 =
        some (.called task resume)) ∧
    ∀ diff, r = .ok diff → Flight.OutputDone { t' with outputDiff := some diff }
      (some ((outputTransaction plugins isResuming schema t.progress).run w).1)) (Leads.around ?_ ?_) ?_)
  · intro a w' ran
    replace ran : (outputTransaction plugins isResuming schema t.progress).run w = _ := ran
    rw [ran]
    refine ⟨by simp [unstarted], ?_⟩
    rintro diff rfl
    exact ⟨diff, rfl, rfl⟩
  · intro task resume w' ran
    replace ran : (outputTransaction plugins isResuming schema t.progress).run w = _ := ran
    rw [ran]
    refine (outputControl_launches input schema task w').mono fun r t' w'' told => ?_
    obtain ⟨started, -, given⟩ := told
    refine ⟨by simp [started], fun diff ok => ?_⟩
    cases r with
    | error e =>
      obtain ⟨e', failed⟩ := honest w task resume (by rw [ran]) e w''
      rw [failed] at ok
      cases ok
    | ok reports =>
      obtain ⟨none, handed⟩ := given reports rfl
      exact ⟨none, reports, handed, w'', diff, ok, rfl⟩
  · rintro (e | diff) t' w' ⟨started, done⟩
    · exact Leads.pure ⟨started, fun failed => by cases failed⟩
    · exact Leads.modify_bind (Leads.pure ⟨started, fun _ => done diff rfl⟩)

theorem runFilters_follows (honest : plugins.AreHonest) (filters : List FilterChoice)
    (chosen : filters ⊆ plugins.filters) (schema : Schema) (input : HasInput t)
    (unstarted : t.progress.hasStarted = false) (clean : t.outputDiff = none) :
    Leads (runFilters plugins filters schema) t w fun r t' _ =>
      t'.Follows (plugins.outputEvent t.progress.taskCount filters schema w) r := by
  induction filters generalizing t schema w with
  | nil =>
    have fresh : outputTransaction plugins false schema t.progress =
        plugins.output.transaction plugins.outputConfig schema t.progress.taskCount := by
      unfold outputTransaction
      split
      · rename_i never
        cases never
      · rfl
    have follows := runOutput_follows (w := w) false schema input unstarted
      (fresh ▸ honest.output _ _ _)
    rw [fresh] at follows
    exact follows
  | cons f rest ih =>
    rw [List.cons_subset] at chosen
    refine Leads.around ?_ ?_
    · intro a w' ran
      rw [TransferPlugins.outputEvent, ran]
      exact ⟨by simp [unstarted], fun _ => clean⟩
    · intro q resume w' ran
      rw [TransferPlugins.outputEvent, ran]
      have behind := @ih { t with progress := t.progress.pushFilter q.task q.schema } w' chosen.2 q.schema
        input unstarted clean
      refine Leads.modify_bind (behind.mono fun r t' w'' follows => ?_)
      refine ⟨follows.started, fun ok => ?_⟩
      cases r with
      | ok _ => exact follows.done rfl
      | error e =>
        obtain ⟨e', failed⟩ := honest.filters f chosen.1 schema w q resume (by rw [ran]) e w''
        rw [failed] at ok
        cases ok

/-- What the answer of an input's control tells of the tasks. -/
structure Answers (t : Flight) (event : Option OutputEvent) (r : Attempt (List Report)) : Prop where
  started : t.progress.hasStarted = true ↔ ∃ task resume, event = some (.called task resume)
  done : ∀ reports, r = .ok reports → t.OutputDone event ∧ .reported .input reports ∈ t.events

/-- When the output has succeeded, the reports of the input are handed over. -/
theorem handInput_answers {event : Option OutputEvent} (follows : t.Follows event (.ok ())) :
    Yields (handOver .input) t fun r t' => Answers t' event r := by
  refine (handOver_tells .input).mono fun r t' told => ?_
  obtain ⟨same, diff, kept, given⟩ := told
  refine ⟨same ▸ follows.started, fun reports ok => ⟨?_, given reports ok⟩⟩
  have done := follows.done rfl
  cases event with
  | none => exact diff.trans done
  | some event =>
    cases event with
    | finished a =>
      obtain ⟨outputDiff, well, there⟩ := done
      exact ⟨outputDiff, well, diff.trans there⟩
    | called task resume =>
      obtain ⟨all, outputs, handed, w₁, outputDiff, well, there⟩ := done
      exact ⟨same ▸ all, outputs, kept handed, w₁, outputDiff, well, diff.trans there⟩

theorem inputControl_answers (honest : plugins.AreHonest) {exec : ExecConfig} (q : InputRequest) :
    Leads (inputControl plugins q) (.ofProgress exec .fresh) w fun r t' _ =>
      Answers t' (outputBehind plugins none q w) r := by
  refine Leads.modify_bind (Leads.bind (runFilters_follows honest plugins.filters
    (List.Subset.refl _) q.schema ⟨rfl, rfl⟩ rfl rfl) fun result t' w' follows => ?_)
  cases result with
  | error e => exact Leads.pure ⟨follows.started, fun _ failed => by cases failed⟩
  | ok _ => exact handInput_answers follows w'

theorem resumedInputControl_answers (honest : plugins.AreHonest) {exec : ExecConfig} {s : ResumeState}
    (q : InputRequest) :
    Leads (resumedInputControl plugins q) (.ofProgress exec (.resumed s)) w fun r t' _ =>
      Answers t' (outputBehind plugins (some s) q w) r := by
  have saved : (Flight.ofProgress exec (.resumed s)).progress.taskCount = s.taskCount := rfl
  refine Leads.get_bind ?_
  rw [saved, outputBehind]
  by_cases same : s.taskCount = q.taskCount
  · rw [if_neg (not_not.mpr same), if_pos same]
    refine Leads.modify_bind (Leads.get_bind (Leads.bind (runOutput_follows true s.outputSchema
      ⟨rfl, rfl⟩ rfl (honest.resumedOutput _ _ _)) fun result t' w' follows => ?_))
    cases result with
    | error e => exact Leads.pure ⟨follows.started, fun _ failed => by cases failed⟩
    | ok _ => exact handInput_answers follows w'
  · rw [if_pos same, if_neg same]
    exact Leads.pure ⟨by simp [Flight.ofProgress, Progress.resumed], fun _ failed => by cases failed⟩

/-- A saved transfer goes on only with as many tasks as it had. -/
theorem resumedInputControl_count {exec : ExecConfig} {s : ResumeState} (q : InputRequest) :
    Leads (resumedInputControl plugins q) (.ofProgress exec (.resumed s)) w fun r _ _ =>
      ∀ reports, r = .ok reports → s.taskCount = q.taskCount := by
  by_cases same : s.taskCount = q.taskCount
  · exact fun _ _ => same
  · refine Leads.get_bind ?_
    rw [show (Flight.ofProgress exec (.resumed s)).progress.taskCount = s.taskCount from rfl, if_pos same]
    exact Leads.pure fun _ failed => by cases failed

end Executor

end Flights

section Landings

/-- The slots that the tasks of a transfer start with. -/
def Progress.startSlots (saved : Option ResumeState) (count : Nat) : List TaskSlot :=
  match saved with
  | none => List.replicate count .blank
  | some s => (List.range s.taskCount).map (resumedSlot s)

namespace Executor

variable {registry : Registry} {config : Config} {plugins : TransferPlugins} {saved : Option ResumeState}
  {d : Departure} {w : World}

/-- What an answered control leaves behind. -/
structure Served (t : Flight) (saved : Option ResumeState) (n : Nat) (event : Option OutputEvent)
    (r : Attempt (List Report)) : Prop extends Answers t event r where
  settled : t.Settled (Progress.startSlots saved n)
  count : ∀ reports, r = .ok reports → (Progress.startSlots saved n).length = n

/-- A departure's transaction is that of its input, and what it asks for is answered honestly. -/
theorem departureFrom_answers (departs : departureFrom registry config saved = .ok d)
    (resolved : TransferPlugins.resolve registry config = .ok plugins) (honest : plugins.AreHonest) :
    d.transaction.run = inputEvent plugins saved ∧ d.progress.hasStarted = false ∧
      ∀ q w, Leads (d.control q) (.ofProgress d.exec d.progress) w fun r t' _ =>
        Served t' saved q.taskCount (outputBehind plugins saved q w) r := by
  cases saved with
  | none =>
    obtain ⟨execConfig, exec, plugins', resolved', rfl⟩ := departure_ok departs
    obtain rfl : plugins' = plugins := Except.ok.inj (resolved'.symm.trans resolved)
    exact ⟨rfl, rfl, fun q w => ⟨inputControl_answers honest q, inputControl_settles q w,
      fun _ _ => List.length_replicate⟩⟩
  | some s =>
    obtain ⟨exec, plugins', resolved', rfl⟩ := resumption_ok departs
    obtain rfl : plugins' = plugins := Except.ok.inj (resolved'.symm.trans resolved)
    have ready : Flight.Ready ((List.range s.taskCount).map (Progress.resumedSlot s))
        (.ofProgress exec (.resumed s)) :=
      ⟨rfl, by simp [Flight.ofProgress, Progress.resumed], rfl, rfl⟩
    refine ⟨rfl, rfl, fun q w => ⟨resumedInputControl_answers honest q,
      resumedInputControl_settles ready q w, fun reports ok => ?_⟩⟩
    have count : s.taskCount = q.taskCount := resumedInputControl_count q reports ok
    rw [Progress.startSlots, List.length_map, List.length_range, count]

theorem fly_called (departs : departureFrom registry config saved = .ok d)
    (resolved : TransferPlugins.resolve registry config = .ok plugins) (honest : plugins.AreHonest)
    {q : InputRequest} {resume : Attempt (List Report) → Action (Attempt Report)}
    (called : (inputEvent plugins saved (w.beginSession d.exec.pageSize)).1 = .called q resume) :
    ∃ answer w', Served (d.fly.run w).1.flight saved q.taskCount
        (outputEvent plugins saved (w.beginSession d.exec.pageSize)) answer ∧
      (d.fly.run w).1.result = ((resume answer).run w').1 := by
  obtain ⟨input, -, answers⟩ := departureFrom_answers departs resolved honest
  rw [fly_run, Transaction.run_drive, input, outputEvent]
  generalize inputEvent plugins saved _ = ran at called
  obtain ⟨event, w₁⟩ := ran
  cases called
  exact ⟨_, _, answers q w₁, rfl⟩

/-- Tasks have been launched exactly when the output has asked for it. -/
theorem fly_started (departs : departureFrom registry config saved = .ok d)
    (resolved : TransferPlugins.resolve registry config = .ok plugins) (honest : plugins.AreHonest) :
    (d.fly.run w).1.flight.progress.hasStarted = true ↔ ∃ task resume,
      outputEvent plugins saved (w.beginSession d.exec.pageSize) = some (.called task resume) := by
  cases event : (inputEvent plugins saved (w.beginSession d.exec.pageSize)).1 with
  | finished a =>
    obtain ⟨input, unstarted, -⟩ := departureFrom_answers departs resolved honest
    rw [fly_run, Transaction.run_drive, input, outputEvent]
    generalize inputEvent plugins saved _ = ran at event
    obtain ⟨event, w₁⟩ := ran
    subst event
    simp [Flight.ofProgress, unstarted]
  | called q resume =>
    obtain ⟨_, _, served, -⟩ := fly_called departs resolved honest event
    exact served.started

end Executor

namespace Landing

variable {l : Landing} {saved : Option ResumeState} {phase : TaskPhase} {n i : Nat}

/-- Both sides of a task have committed, in this flight or, if this one has not run it, in the saved
one. -/
def HasCommitted (l : Landing) (saved : Option ResumeState) (i : Nat) : Prop :=
  (∃ o, l.Ends o ∧ o.index = i ∧ ∀ phase, (o.report phase).isSome) ∨
    (∀ o, l.Ends o → o.index ≠ i) ∧ ∃ s, saved = some s ∧ s.isTaskCommitted i = true

/-- A side of a task has given this report, in this flight or, if this one has not run it, in the saved
one. -/
def HasReport (l : Landing) (saved : Option ResumeState) (phase : TaskPhase) (i : Nat)
    (report : Report) : Prop :=
  (∃ o, l.Ends o ∧ o.index = i ∧ o.report phase = some report) ∨
    (∀ o, l.Ends o → o.index ≠ i) ∧
      ∃ s, saved = some s ∧ s.isTaskCommitted i = true ∧ s.reportAt phase i = some report

/-- The transaction of a side was handed the reports of all tasks, in their order. -/
structure Hands (l : Landing) (saved : Option ResumeState) (phase : TaskPhase) (n : Nat)
    (reports : List Report) : Prop where
  handed : .reported phase reports ∈ l.flight.events
  count : reports.length = n
  own : ∀ i report, reports[i]? = some report → l.HasReport saved phase i report

/-- What a slot holds was recorded in this flight, or it has been there from the start. -/
theorem slot_origin {slots : List TaskSlot} (settled : l.flight.Settled slots) {slot : TaskSlot}
    (there : l.flight.progress.slots[i]? = some slot) :
    (∃ o, l.Ends o ∧ o.index = i ∧ slot = ⟨o.inputReport, o.outputReport, o.error⟩) ∨
      (∀ o, l.Ends o → o.index ≠ i) ∧ slots[i]? = some slot := by
  by_cases ends : ∃ o, l.Ends o ∧ o.index = i
  · obtain ⟨o, ended, rfl⟩ := ends
    exact .inl ⟨o, ended, rfl, Option.some.inj (there.symm.trans (settled.recorded o ended))⟩
  · have never : ∀ o, l.Ends o → o.index ≠ i := fun o ended same => ends ⟨o, ended, same⟩
    refine .inr ⟨never, ?_⟩
    cases started : l.flight.progress.hasStarted with
    | false => rwa [(settled.idle started).1] at there
    | true =>
      have inside : i < slots.length := by
        rw [← settled.length]
        exact (List.getElem?_eq_some_iff.mp there).1
      have before := List.getElem?_eq_getElem inside
      cases committed : slots[i].isCommitted with
      | true => rw [before, ← there, (settled.kept i _ before committed).1]
      | false =>
        obtain ⟨⟨o, ended, same⟩, -⟩ := settled.served started i _ before committed
        exact absurd same (never o ended)

/-- A slot that had a report in the beginning is that of a task that was saved as committed. -/
theorem startSlots_saved {slot : TaskSlot} (there : (Progress.startSlots saved n)[i]? = some slot)
    {report : Report} (reported : Progress.side phase slot = some report) :
    ∃ s, saved = some s ∧ s.isTaskCommitted i = true ∧ s.reportAt phase i = some report := by
  have blank : ∀ phase, Progress.side phase .blank = none := by rintro (_ | _) <;> rfl
  cases saved with
  | none =>
    obtain ⟨_, rfl⟩ := List.getElem?_eq_some_iff.mp there
    simp only [Progress.startSlots, List.getElem_replicate, blank] at reported
    cases reported
  | some s =>
    obtain ⟨_, rfl⟩ := List.getElem?_eq_some_iff.mp there
    simp only [Progress.startSlots, List.getElem_map, List.getElem_range] at reported
    by_cases committed : s.isTaskCommitted i = true
    · rw [ResumeState.side_resumedSlot committed] at reported
      exact ⟨s, rfl, committed, reported⟩
    · rw [Progress.resumedSlot, if_neg committed, blank] at reported
      cases reported

theorem hands_of_reported (settled : l.flight.Settled (Progress.startSlots saved n))
    (length : (Progress.startSlots saved n).length = n) {reports : List Report}
    (handed : .reported phase reports ∈ l.flight.events) : l.Hands saved phase n reports := by
  have sides := settled.reported phase reports handed
  refine ⟨handed, ?_, fun i report given => ?_⟩
  · have lengths := congrArg List.length sides
    rw [List.length_map, List.length_map, settled.length, length] at lengths
    exact lengths.symm
  · have side := congrArg (·[i]?) sides
    simp only [List.getElem?_map, given, Option.map_some] at side
    obtain ⟨slot, there, reported⟩ := Option.map_eq_some_iff.mp side
    rcases slot_origin settled there with ⟨o, ended, index, rfl⟩ | ⟨never, before⟩
    · refine .inl ⟨o, ended, index, ?_⟩
      cases phase <;> exact reported
    · exact .inr ⟨never, startSlots_saved before reported⟩

end Landing

namespace Executor

variable {registry : Registry} {config : Config} {plugins : TransferPlugins} {saved : Option ResumeState}
  {d : Departure}

/-- The transaction of the output, if it was reached, has given this diff: without its control or for the
reports of all tasks. -/
def OutputGave (l : Landing) (saved : Option ResumeState) (n : Nat) (diff : Report) :
    Option OutputEvent → Prop
  | none => diff = Document.empty
  | some (.finished a) => a = .ok diff
  | some (.called _ resume) => ∃ outputs, l.Hands saved .output n outputs ∧
    ∃ w, ((resume (.ok outputs)).run w).1 = .ok diff

/-- What a transfer that is told to be committed has done: its tasks have committed, and the diff is made
of what the transactions of the input and of the output have given for the reports of all tasks. -/
structure Delivered (l : Landing) (saved : Option ResumeState) (n : Nat)
    (input : Attempt (List Report) → Action (Attempt Report)) (output : Option OutputEvent)
    (result : ExecutionResult) : Prop where
  committed : ∀ i < n, l.HasCommitted saved i
  diff : ∃ inputs inputDiff outputDiff, l.Hands saved .input n inputs ∧
    (∃ w, ((input (.ok inputs)).run w).1 = .ok inputDiff) ∧ OutputGave l saved n outputDiff output ∧
      result.diff = (Document.empty.setNested "in" inputDiff).setNested "out" outputDiff

theorem OutputGave.of_done {l : Landing} {n : Nat} {event : Option OutputEvent}
    (settled : l.flight.Settled (Progress.startSlots saved n))
    (length : (Progress.startSlots saved n).length = n) (done : l.flight.OutputDone event) :
    OutputGave l saved n (l.flight.outputDiff.getD Document.empty) event := by
  cases event with
  | none => exact congrArg (Option.getD · Document.empty) done
  | some event =>
    cases event with
    | finished a =>
      obtain ⟨diff, well, there⟩ := done
      rwa [there]
    | called task resume =>
      obtain ⟨-, outputs, handed, w, diff, well, there⟩ := done
      rw [there]
      exact ⟨outputs, Landing.hands_of_reported settled length handed, w, well⟩

/-- When the control of the input has answered well, all tasks have committed: in this flight if it has
launched any, and in the saved one else. -/
theorem Served.committed {l : Landing} {n : Nat} {event : Option OutputEvent} {reports : List Report}
    (served : Served l.flight saved n event (.ok reports)) : ∀ i < n, l.HasCommitted saved i := by
  obtain ⟨done, handed⟩ := served.done reports rfl
  intro i hi
  obtain ⟨slot, there⟩ : ∃ slot, l.flight.progress.slots[i]? = some slot := by
    rw [← served.count reports rfl, ← served.settled.length] at hi
    exact ⟨_, List.getElem?_eq_getElem hi⟩
  rcases Landing.slot_origin served.settled there with ⟨o, ended, index, rfl⟩ | ⟨never, before⟩
  · have started : l.flight.progress.hasStarted = true := by
      by_contra unstarted
      exact (served.settled.idle (Bool.not_eq_true _ ▸ unstarted)).2 o ended
    obtain ⟨task, resume, rfl⟩ := served.started.mp started
    have both := Progress.committed_of_failedCount done.1 there
    rw [TaskSlot.isCommitted, Bool.and_eq_true] at both
    exact .inl ⟨o, ended, index, fun | .input => both.1 | .output => both.2⟩
  · have side := congrArg (·[i]?) (served.settled.reported .input reports handed)
    simp only [List.getElem?_map, there, Option.map_some] at side
    obtain ⟨report, -, reported⟩ := Option.map_eq_some_iff.mp side.symm
    obtain ⟨s, saved, committed, -⟩ := Landing.startSlots_saved before reported.symm
    exact .inr ⟨never, s, saved, committed⟩

theorem inputEvent_honest (honest : plugins.AreHonest) {q : InputRequest} {w : World}
    {resume : Attempt (List Report) → Action (Attempt Report)}
    (called : (inputEvent plugins saved w).1 = .called q resume) (e : PluginError) (w' : World) :
    ∃ e', ((resume (.error e)).run w').1 = .error e' := by
  cases saved with
  | none => exact honest.input _ w q resume called e w'
  | some s => exact honest.resumedInput _ _ _ w q resume called e w'

theorem departureFrom_settles (departs : departureFrom registry config saved = .ok d) (w : World) :
    ∃ slots, (d.fly.run w).1.flight.Settled slots := by
  cases saved with
  | none =>
    obtain ⟨count, settled⟩ := departure_settles departs w
    exact ⟨_, settled⟩
  | some s => exact ⟨_, resumption_settles departs w⟩

/-- An error of a transfer is a partial failure exactly when it has launched tasks. -/
theorem error_of_started (departs : departureFrom registry config saved = .ok d) {w : World}
    {e : ExecutionError} (failed : (d.fly.run w).1.conclude = .error e) :
    ((∃ state cause suppressed, e = .partiallyFailed state cause suppressed) ↔
        (d.fly.run w).1.flight.progress.hasStarted = true) ∧
      ((∃ cause, e = .plugin cause) ↔ ¬ (d.fly.run w).1.flight.progress.hasStarted = true) := by
  obtain ⟨slots, settled⟩ := departureFrom_settles departs w
  cases result : (d.fly.run w).1.result with
  | ok diff =>
    rw [Landing.conclude_ok result] at failed
    cases failed
  | error cause =>
    cases left : (d.fly.run w).1.resumeState? with
    | none =>
      rw [Landing.conclude_plugin result left] at failed
      cases failed
      simp [Landing.unstarted_of_none settled left]
    | some s =>
      obtain ⟨cause, suppressed, concluded⟩ := Landing.conclude_partiallyFailed result left
      rw [concluded] at failed
      cases failed
      simp [(Progress.resumeState?_some left).1]

/-- No commit is told falsely. When the input has asked for tasks to be run, a transfer that ends well has
committed all of them, so it ends in an error when one has not. Once the transactions have begun, an error
is a partial failure exactly when the output has asked for the tasks to be run. -/
theorem commit_is_never_told_falsely (resolved : TransferPlugins.resolve registry config = .ok plugins)
    (honest : plugins.AreHonest) (departs : departureFrom registry config saved = .ok d) (w : World) :
    (∀ q resume, (inputEvent plugins saved (w.beginSession d.exec.pageSize)).1 = .called q resume →
      (∀ result, ((attempt registry config saved).run w).1 = .ok result →
        Delivered (d.fly.run w).1 saved q.taskCount resume
          (outputEvent plugins saved (w.beginSession d.exec.pageSize)) result) ∧
      ((∃ i < q.taskCount, ¬ (d.fly.run w).1.HasCommitted saved i) →
        ∃ e, ((attempt registry config saved).run w).1 = .error e)) ∧
    ∀ e, ((attempt registry config saved).run w).1 = .error e →
      ((∃ state cause suppressed, e = .partiallyFailed state cause suppressed) ↔ ∃ task resume,
        outputEvent plugins saved (w.beginSession d.exec.pageSize) = some (.called task resume)) ∧
      ((∃ cause, e = .plugin cause) ↔ ¬ ∃ task resume,
        outputEvent plugins saved (w.beginSession d.exec.pageSize) = some (.called task resume)) := by
  rw [attempt_departs departs]
  have delivers : ∀ q resume,
      (inputEvent plugins saved (w.beginSession d.exec.pageSize)).1 = .called q resume →
        ∀ result, (d.fly.run w).1.conclude = .ok result → Delivered (d.fly.run w).1 saved q.taskCount
          resume (outputEvent plugins saved (w.beginSession d.exec.pageSize)) result := by
    intro q resume called result ended
    obtain ⟨answer, w', served, returned⟩ := fly_called departs resolved honest called
    obtain ⟨inputDiff, well, diff⟩ := Landing.result_of_conclude ended
    cases answer with
    | error e =>
      obtain ⟨e', failed⟩ := inputEvent_honest honest called e w'
      rw [returned, failed] at well
      cases well
    | ok reports =>
      obtain ⟨done, handed⟩ := served.done reports rfl
      have length := served.count reports rfl
      exact ⟨served.committed, reports, inputDiff, _,
        Landing.hands_of_reported served.settled length handed, ⟨w', returned.symm.trans well⟩,
        .of_done served.settled length done, diff⟩
  refine ⟨fun q resume called => ⟨delivers q resume called, ?_⟩, fun e failed => ?_⟩
  · rintro ⟨i, hi, uncommitted⟩
    cases ended : (d.fly.run w).1.conclude with
    | error e => exact ⟨e, rfl⟩
    | ok result => exact absurd ((delivers q resume called result ended).committed i hi) uncommitted
  · rw [← fly_started departs resolved honest]
    exact error_of_started departs failed

section Rehearsed

/-- Two tasks of a rehearsed transfer, read through a filter. -/
def filteredTasks : Config :=
  ⟨[("in", .obj [("type", .str "mock"), ("tasks", .ofNat 2)]),
    ("filters", .arr [.obj [("type", .str "plus_one")]]), ("out", .obj [("type", .str "mock")])]⟩

def rehearsedPlugins (script : Rehearsal.Script) : TransferPlugins where
  input := Rehearsal.input script
  inputConfig := ⟨[("type", .str "mock"), ("tasks", .ofNat 2)]⟩
  filters := [⟨Rehearsal.filter script, ⟨[("type", .str "plus_one")]⟩⟩]
  output := Rehearsal.output script
  outputConfig := ⟨[("type", .str "mock")]⟩

theorem rehearsedPlugins_resolved (script : Rehearsal.Script) :
    TransferPlugins.resolve (Rehearsal.registry script) filteredTasks = .ok (rehearsedPlugins script) :=
  rfl

theorem rehearsedPlugins_honest (script : Rehearsal.Script) : (rehearsedPlugins script).AreHonest where
  input := fun config => (Rehearsal.input_passes config).1.honest
  resumedInput := fun task schema count => ((Rehearsal.input_passes default).2 task schema count).honest
  filters := by
    intro f hf schema
    obtain rfl := List.mem_singleton.mp hf
    exact (Rehearsal.filter_passes _ schema).honest
  output := fun _ _ _ => (Transaction.Passes.behind _ fun _ => Rehearsal.output_passes _).honest
  resumedOutput := fun _ _ _ => (Transaction.Passes.behind _ fun _ => Rehearsal.output_passes _).honest

/-- How the two tasks of a rehearsal end, if its input asks for them to be run. -/
def rehearsedEnd (script : Rehearsal.Script) (check : Except ExecutionError ExecutionResult → Bool) :
    Bool :=
  (departure (Rehearsal.registry script) filteredTasks).toOption.any fun d =>
    match (inputEvent (rehearsedPlugins script) none ((default : World).beginSession d.exec.pageSize)).1 with
    | .called q _ => q.taskCount == 2 && check (d.fly.run default).1.conclude
    | .finished _ => false

theorem rehearsed_ends {script : Rehearsal.Script}
    {check : Except ExecutionError ExecutionResult → Bool} (h : rehearsedEnd script check = true) :
    ∃ d q resume, departureFrom (Rehearsal.registry script) filteredTasks none = .ok d ∧
      (inputEvent (rehearsedPlugins script) none ((default : World).beginSession d.exec.pageSize)).1 =
        .called q resume ∧
      q.taskCount = 2 ∧
        check ((attempt (Rehearsal.registry script) filteredTasks none).run default).1 = true := by
  unfold rehearsedEnd at h
  cases departs : departure (Rehearsal.registry script) filteredTasks with
  | error e => simp [departs, Except.toOption] at h
  | ok d =>
    simp only [departs, Except.toOption, Option.any_some] at h
    split at h
    · rename_i q resume called
      rw [Bool.and_eq_true, beq_iff_eq] at h
      have begins : departureFrom (Rehearsal.registry script) filteredTasks none = .ok d := departs
      refine ⟨d, q, resume, begins, called, h.1, ?_⟩
      rw [attempt_departs begins]
      exact h.2
    · cases h

def isPartial : Except ExecutionError ExecutionResult → Bool
  | .error (.partiallyFailed _ _ _) => true
  | _ => false

/-- Two tasks commit, and that is told. When the second one fails, a partial failure is told, since the
output had asked for the tasks. -/
theorem two_tasks_are_told_truly :
    (∃ (d : Departure) (q : InputRequest) (resume : Attempt (List Report) → Action (Attempt Report))
      (result : ExecutionResult), q.taskCount = 2 ∧
        ((attempt (Rehearsal.registry {}) filteredTasks none).run default).1 = .ok result ∧
          Delivered (d.fly.run default).1 none q.taskCount resume
            (outputEvent (rehearsedPlugins {}) none ((default : World).beginSession d.exec.pageSize))
              result) ∧
      ∃ (d : Departure) (e : ExecutionError),
        ((attempt (Rehearsal.registry { badRows := [1] }) filteredTasks none).run default).1 = .error e ∧
          (∃ state cause suppressed, e = .partiallyFailed state cause suppressed) ∧
            ∃ task resume, outputEvent (rehearsedPlugins { badRows := [1] }) none
              ((default : World).beginSession d.exec.pageSize) = some (.called task resume) := by
  constructor
  · obtain ⟨d, q, resume, departs, called, count, ended⟩ :=
      @rehearsed_ends {} Except.isOk (by decide +kernel)
    have told := commit_is_never_told_falsely (rehearsedPlugins_resolved {}) (rehearsedPlugins_honest {})
      departs default
    generalize ran : ((attempt (Rehearsal.registry {}) filteredTasks none).run default).1 = result at ended
    cases result with
    | error e => cases ended
    | ok result => exact ⟨d, q, resume, result, count, rfl, (told.1 q resume called).1 result ran⟩
  · obtain ⟨d, q, resume, departs, -, -, ended⟩ :=
      @rehearsed_ends { badRows := [1] } isPartial (by decide +kernel)
    have told := commit_is_never_told_falsely (rehearsedPlugins_resolved { badRows := [1] })
      (rehearsedPlugins_honest { badRows := [1] }) departs default
    generalize ran : ((attempt (Rehearsal.registry { badRows := [1] }) filteredTasks none).run default).1 =
      result at ended
    match result, ended with
    | .error (.partiallyFailed state cause suppressed), _ =>
      have failed : ∃ s c o, ExecutionError.partiallyFailed state cause suppressed =
        .partiallyFailed s c o := ⟨_, _, _, rfl⟩
      exact ⟨d, _, rfl, failed, (told.2 _ ran).1.mp failed⟩

end Rehearsed

end Executor

end Landings

end BulkTransfer
