import BulkTransfer.Proofs.Plugin.FileCalls
import BulkTransfer.Record.Rename
import BulkTransfer.Rehearsal.Plugins
import BulkTransfer.Transfer.TaskPlan
/-!
# How a task settles its output

A task hands the pages of its input to its output, finishes it, and commits it if both have gone well.
Whatever else happens once the output is open, it is aborted; it is closed in the end, and the outcome
tells which of the two was done.
-/
namespace BulkTransfer

open OutputCall (Hands Feeds)

variable {σ D : Type}

/-- What a filter opens forwards. -/
def FilterTask.Forwards (f : FilterTask) : Prop :=
  ∀ stage, f.plugin.openTask f.task f.inputSchema f.outputSchema = .ok stage → stage.Forwards

/-- How an output is settled when the input was read to this end, and what is told of it. -/
inductive Settled (index : Nat) :
    Except RunFault Report → List (OutputCall D) → TaskOutcome → Prop where
  | panicked (text : String) :
    Settled index (.error (.panicked text)) [] (.failed index (.panicked text))
  | unread (e : PluginError) :
    Settled index (.error (.failed e)) [.abort, .close] (.failed index e)
  | refused (report : Report) (e : PluginError) :
    Settled index (.ok report) [.commit (.error e), .abort, .close] ⟨index, some report, none, some e⟩
  | committed (report outputReport : Report) :
    Settled index (.ok report) [.commit (.ok outputReport), .close]
      ⟨index, some report, some outputReport, none⟩

namespace TaskPlan

variable {p : TaskPlan} {index : Nat} {log : σ → List (OutputCall D)} {c : PageChain σ}
  {k : PageSink σ}

theorem openFilters_forwards {filters : List FilterTask} (h : ∀ f ∈ filters, f.Forwards)
    {stage : FilterStage} (opened : openFilters filters = .ok stage) : stage.Forwards := by
  induction filters generalizing stage with
  | nil =>
    cases opened
    exact FilterStage.passing_forwards
  | cons f rest ih =>
    simp only [openFilters] at opened
    cases inner : openFilters rest with
    | error e => simp [inner] at opened
    | ok second =>
      cases outer : f.plugin.openTask f.task f.inputSchema f.outputSchema with
      | error e => simp [inner, outer] at opened
      | ok first =>
        simp only [inner, outer, Except.ok.injEq] at opened
        subst opened
        exact FilterStage.Forwards.followedBy (h f List.mem_cons_self first outer)
          (ih (fun other hm => h other (List.mem_cons_of_mem f hm)) inner)

/-- What is read into a chain is data; the chain is finished where the input has not failed. -/
theorem feedChain_logs (h : c.Forwards log) : (p.feedChain index c).Logs log
    fun r new => Feeds (∃ report, r = .ok report) new := by
  refine (SureCall.Logs.bind (h.receive _)
    (Q := fun _ r new => Feeds (∃ report, r = .ok report) new) fun fed => ?_).mono ?_
  · match fed with
    | .error (.panicked text) =>
      refine (SureCall.Logs.pure _).mono ?_
      rintro _ _ ⟨rfl, rfl⟩
      exact Hands.nil.feeds.imp (by simp)
    | .error (.failed e) =>
      refine (SureCall.Logs.bind h.close fun _ => SureCall.Logs.pure _).mono ?_
      rintro _ _ ⟨_, _, _, rfl, rfl, rfl, rfl⟩
      exact Hands.nil.feeds.imp (by simp)
    | .ok report =>
      refine (SureCall.Logs.bind h.finish fun finished =>
        SureCall.Logs.bind h.close fun _ => SureCall.Logs.pure _).mono ?_
      rintro _ _ ⟨finished, ended, _, rfl, feeds, _, _, _, rfl, rfl, rfl, rfl⟩
      rw [List.append_nil, List.append_nil]
      refine feeds.imp ?_
      rintro ⟨_, ok⟩
      cases finished with
      | error e => cases ok
      | ok _ => rfl
  · rintro r _ ⟨_, handed, rest, rfl, hands, feeds⟩
    exact feeds.after hands

theorem readInput_logs (h : k.Records log) (forwards : ∀ f ∈ p.filters, f.Forwards) :
    (p.readInput index k).Logs log fun r new => Feeds (∃ report, r = .ok report) new := by
  intro s w
  cases opened : openFilters p.filters with
  | error e =>
    simp only [readInput, opened]
    exact ⟨[], (List.append_nil _).symm, Hands.nil.feeds.imp (by simp)⟩
  | ok stage =>
    simp only [readInput, opened, Program.run_andThen]
    exact feedChain_logs (openFilters_forwards forwards opened h.asChain) _ w

theorem abort_logs (h : k.Records log) (outcome : TaskOutcome) : SureCall.Logs
    (do
      k.abort
      k.close
      return outcome : SureCall σ TaskOutcome) log
      fun o new => o = outcome ∧ new = [.abort, .close] := by
  refine (SureCall.Logs.bind h.abort fun _ =>
    SureCall.Logs.bind h.close fun _ => SureCall.Logs.pure outcome).mono ?_
  rintro _ _ ⟨_, _, _, rfl, rfl, _, _, _, rfl, rfl, rfl, rfl⟩
  exact ⟨rfl, rfl⟩

theorem settle_logs (h : k.Records log) (report : Report) : (settle k index report).Logs log
    fun o new => Settled index (.ok report) new o := by
  refine (SureCall.Logs.bind h.commit (Q := fun answer o new =>
    Settled index (.ok report) (.commit answer :: new) o) fun answer => ?_).mono ?_
  · cases answer with
    | error e =>
      refine (abort_logs h _).mono ?_
      rintro _ _ ⟨rfl, rfl⟩
      exact .refused report e
    | ok outputReport =>
      refine (SureCall.Logs.bind h.close fun _ => SureCall.Logs.pure _).mono ?_
      rintro _ _ ⟨_, _, _, rfl, rfl, rfl, rfl⟩
      exact .committed report outputReport
  · rintro o _ ⟨answer, _, rest, rfl, rfl, settled⟩
    exact settled

/-- What a task does with its output when the input was read to an end. -/
def settleRead (k : PageSink σ) (index : Nat) : Except RunFault Report → SureCall σ TaskOutcome
  | .error (.panicked text) => return .failed index (.panicked text)
  | .error (.failed e) => do
    k.abort
    k.close
    return .failed index e
  | .ok report => settle k index report

theorem settleRead_logs (h : k.Records log) (read : Except RunFault Report) :
    (settleRead k index read).Logs log fun o new => Settled index read new o := by
  match read with
  | .error (.panicked text) =>
    refine (SureCall.Logs.pure _).mono ?_
    rintro _ _ ⟨rfl, rfl⟩
    exact .panicked text
  | .error (.failed e) =>
    refine (abort_logs h _).mono ?_
    rintro _ _ ⟨rfl, rfl⟩
    exact .unread e
  | .ok report => exact settle_logs h report

/-- What the input has told is what is told of it, unless the chain could not be finished. -/
theorem feedChain_run (p : TaskPlan) (index : Nat) (c : PageChain σ) (s : σ) (w : World) :
    let fed := (c.receive (p.input.run p.inputTask p.inputSchema index) s).run w
    let finished := (c.finish.attempt fed.1.2).run fed.2
    ((p.feedChain index c s).run w).1.1 =
      match fed.1.1 with
      | .error fault => .error fault
      | .ok report => (finished.1.1.map fun () => report).mapError .failed := by
  rw [feedChain, SureCall.run_bind]
  generalize (c.receive (p.input.run p.inputTask p.inputSchema index) s).run w = fed
  obtain ⟨⟨answer, s'⟩, w'⟩ := fed
  match answer with
  | .error (.panicked text) => rfl
  | .error (.failed e) =>
    dsimp only
    rw [SureCall.run_bind]
    rfl
  | .ok report =>
    dsimp only
    rw [SureCall.run_bind, SureCall.run_bind]
    rfl

end TaskPlan

/-- The filter of a rehearsal takes a page apart and passes on what becomes of it. -/
theorem Rehearsal.filter_forwards (s : Script) (task : Task) (source target : Schema) :
    (FilterTask.mk (Rehearsal.filter s) task source target).Forwards := by
  intro stage opened
  simp only [Rehearsal.filter] at opened
  split at opened
  · cases opened
  split at opened
  · cases opened
    intro σ D c log h
    exact FilterStage.passing_forwards
      ⟨fun page => .between (h.receive _) _ fun _ => _, h.finish, h.close⟩
  · cases opened

/-- The built-in filter passes pages as they are. -/
theorem Rename.filter_forwards (task : Task) (source target : Schema) :
    (FilterTask.mk Rename.filter task source target).Forwards := by
  intro stage opened
  cases opened
  exact FilterStage.passing_forwards

/-- An output that takes every page, and answers so to its end. -/
def PageOutput.answering (finish : Attempt Unit) (commit : Attempt Report) :
    PageOutput where
  State := Unit
  sink := ⟨pure (), fun _ => pure (), Call.ofAttempt finish, Call.ofAttempt commit, pure (), pure ()⟩
  initial := ()

/-- A task that is performed in a world, once its plan has found its output. -/
structure TaskRun (o : PageOutput) where
  plan : TaskPlan
  index : Nat
  world : World
  opens : plan.output.openTask plan.outputTask plan.outputSchema index = .ok o

namespace TaskRun

variable {o : PageOutput} (t : TaskRun o)

def outcome : TaskOutcome := ((t.plan.perform t.index).run t.world).1

def ended : (TaskOutcome × o.State) × World :=
  (t.plan.performIn t.index o.sink o.initial).run t.world

def opening : (Attempt Unit × o.State) × World := (o.sink.start.attempt o.initial).run t.world

def IsOpen : Prop := t.opening.1.1 = .ok ()

/-- The input is read into the chain of the filters, behind which is the output. -/
def feeding (stage : FilterStage) :
    (Except RunFault Report × stage.State × o.State) × World :=
  ((stage.wrap o.sink.asChain).receive
    (t.plan.input.run t.plan.inputTask t.plan.inputSchema t.index)
    (stage.initial, t.opening.1.2)).run t.opening.2

def finishing (stage : FilterStage) : (Attempt Unit × stage.State × o.State) × World :=
  ((stage.wrap o.sink.asChain).finish.attempt (t.feeding stage).1.2).run (t.feeding stage).2

/-- How the input has ended, if it was read at all. -/
def ran : Option (Except RunFault Report) :=
  match t.opening.1.1, TaskPlan.openFilters t.plan.filters with
  | .ok (), .ok stage => some (t.feeding stage).1.1
  | _, _ => none

/-- How the chain was finished, if the input has given a report. -/
def finished : Option (Attempt Unit) :=
  match t.ran, TaskPlan.openFilters t.plan.filters with
  | some (.ok _), .ok stage => some (t.finishing stage).1.1
  | _, _ => none

/-- What the reading of the input comes to. -/
def reading : (Except RunFault Report × o.State) × World :=
  (t.plan.readInput t.index o.sink t.opening.1.2).run t.opening.2

variable {t}

theorem outcome_eq : t.outcome = t.ended.1.1 := by
  simp only [outcome, TaskPlan.perform, t.opens, Program.run_andThen]
  rfl

theorem reading_told {stage : FilterStage}
    (opened : TaskPlan.openFilters t.plan.filters = .ok stage) : t.reading.1.1 =
      match (t.feeding stage).1.1 with
      | .error fault => .error fault
      | .ok report => ((t.finishing stage).1.1.map fun () => report).mapError .failed := by
  simp only [reading, TaskPlan.readInput, opened, Program.run_andThen, Program.run_done]
  exact TaskPlan.feedChain_run t.plan t.index _ _ _

/-- A reading goes well when the input has given a report and the chain could be finished. -/
theorem reading_ok_iff (isOpen : t.IsOpen) (report : Report) : t.reading.1.1 = .ok report ↔
    t.ran = some (.ok report) ∧ t.finished = some (.ok ()) := by
  unfold IsOpen at isOpen
  cases opened : TaskPlan.openFilters t.plan.filters with
  | error e => simp [reading, TaskPlan.readInput, ran, isOpen, opened]
  | ok stage =>
    rw [reading_told opened]
    simp only [ran, finished, isOpen, opened, Option.some.injEq]
    cases (t.feeding stage).1.1 with
    | error fault => simp
    | ok given => cases ended : (t.finishing stage).1.1 <;> simp [Except.map, Except.mapError, ended]

theorem ran_of_panicked (isOpen : t.IsOpen) {text : String}
    (panicked : t.reading.1.1 = .error (.panicked text)) :
    t.ran = some (.error (.panicked text)) := by
  unfold IsOpen at isOpen
  cases opened : TaskPlan.openFilters t.plan.filters with
  | error e => simp [reading, TaskPlan.readInput, opened] at panicked
  | ok stage =>
    rw [reading_told opened] at panicked
    simp only [ran, isOpen, opened, Option.some.injEq]
    cases fed : (t.feeding stage).1.1 with
    | error fault => rwa [fed] at panicked
    | ok given => cases ended : (t.finishing stage).1.1 <;> simp [Except.map, Except.mapError, fed, ended] at panicked

theorem ended_eq (isOpen : t.IsOpen) : t.ended =
    (TaskPlan.settleRead o.sink t.index t.reading.1.1 t.reading.1.2).run t.reading.2 := by
  have opened : ((o.sink.start.attempt o.initial).run t.world).1.1 = .ok () := isOpen
  unfold ended TaskPlan.performIn
  rw [SureCall.run_bind, opened]
  exact SureCall.run_bind ..

/-- Once the output is open, the task settles it as the reading of its input has ended. -/
theorem ended_settles {log : o.State → List (OutputCall D)} (h : o.sink.Records log)
    (isOpen : t.IsOpen) :
    ∃ settling, log t.ended.1.2 = log t.reading.1.2 ++ settling ∧
      Settled t.index t.reading.1.1 settling t.outcome := by
  rw [outcome_eq, ended_eq isOpen]
  exact TaskPlan.settleRead_logs h t.reading.1.1 t.reading.1.2 t.reading.2

/-- The calls of a task on an output that keeps a log, once it is open: those of the reading, then
those that settle it. -/
theorem ended_logs {log : o.State → List (OutputCall D)} (h : o.sink.Records log)
    (forwards : ∀ f ∈ t.plan.filters, f.Forwards) (isOpen : t.IsOpen) :
    ∃ fed settling, log t.ended.1.2 = log t.opening.1.2 ++ (fed ++ settling) ∧
      Feeds (∃ report, t.reading.1.1 = .ok report) fed ∧
      Settled t.index t.reading.1.1 settling t.outcome := by
  have logs : (t.plan.readInput t.index o.sink).Logs log
      fun r new => Feeds (∃ report, r = .ok report) new := TaskPlan.readInput_logs h forwards
  obtain ⟨fed, grown, feeds⟩ := logs t.opening.1.2 t.opening.2
  obtain ⟨settling, settled, told⟩ := ended_settles h isOpen
  refine ⟨fed, settling, ?_, feeds, told⟩
  rw [settled, ← List.append_assoc, ← grown]
  rfl

/-- The calls on a watched output since it was opened. -/
def calls {o : PageOutput} (t : TaskRun o.watched) : List (OutputCall PageCall) :=
  o.log t.ended.1.2

theorem opening_calls {o : PageOutput} (t : TaskRun o.watched) : o.log t.opening.1.2 = [] := by
  obtain ⟨_, blank, rfl⟩ := o.sink.watched_start (o.initial, []) t.world
  exact blank

theorem calls_settle {o : PageOutput} {t : TaskRun o.watched}
    (forwards : ∀ f ∈ t.plan.filters, f.Forwards) (isOpen : t.IsOpen) :
    ∃ fed settling, t.calls = fed ++ settling ∧
      Feeds (∃ report, t.reading.1.1 = .ok report) fed ∧
      Settled t.index t.reading.1.1 settling t.outcome := by
  obtain ⟨fed, settling, grown, rest⟩ := ended_logs o.log_records forwards isOpen
  refine ⟨fed, settling, grown.trans ?_, rest⟩
  rw [opening_calls, List.nil_append]

/-- A task that reads one record. -/
def rehearsed (filters : List FilterTask) (o : PageOutput) : TaskRun o.watched where
  plan :=
    { input := Rehearsal.input {}
      inputTask := Document.empty.set "rows" (.ofInt 1)
      inputSchema := Rehearsal.schema
      filters
      output := { Rehearsal.output {} with openTask := fun _ _ _ => .ok o.watched }
      outputTask := Document.empty
      outputSchema := Rehearsal.schema }
  index := 0
  world := default
  opens := rfl

def raising : FilterTask :=
  ⟨Rehearsal.filter {}, Document.empty.set "delta" (.ofInt 1), Rehearsal.schema, Rehearsal.schema⟩

def renames : FilterTask :=
  ⟨Rename.filter, Document.empty, Rehearsal.schema, Rehearsal.schema⟩

/-- The protocol of a task towards an output that is open, and what the outcome tells of it. -/
structure KeepsProtocol {o : PageOutput} (t : TaskRun o.watched) : Prop where
  /-- Pages are added, the output is finished at most once, it is committed at most once and only if the
  input has given its report and the output was finished well, it is aborted exactly if it was not
  committed well, and it is closed once, last of all. -/
  order : ∃ adding finishing committing aborting,
    t.calls = adding ++ finishing ++ committing ++ aborting ++ [.close] ∧ Hands adding ∧
    (finishing = [] ∨ ∃ answer, finishing = [.finish answer]) ∧
    (committing = [] ∨ ∃ answer, committing = [.commit answer] ∧
      (∃ report, t.ran = some (.ok report)) ∧ finishing = [.finish (.ok ())]) ∧
    ((∃ report, committing = [.commit (.ok report)]) ∧ aborting = [] ∨
      (¬ ∃ report, committing = [.commit (.ok report)]) ∧ aborting = [.abort])
  outputReport : ∀ report,
    t.outcome.outputReport = some report ↔ .commit (.ok report) ∈ t.calls
  error : t.outcome.error = none ↔ ∃ report, .commit (.ok report) ∈ t.calls
  inputReport : t.outcome.outputReport.isSome → t.outcome.inputReport.isSome
  isCommitted : t.outcome.isCommitted ↔
    t.outcome.inputReport.isSome ∧ t.outcome.outputReport.isSome

/-- Whatever the input, the filters and the output answer, the task keeps to the protocol. -/
theorem output_is_settled_once_and_closed {o : PageOutput} (t : TaskRun o.watched)
    (isOpen : t.IsOpen) (forwards : ∀ f ∈ t.plan.filters, f.Forwards)
    (calm : ∀ text, t.ran ≠ some (.error (.panicked text))) : t.KeepsProtocol := by
  obtain ⟨fed, settling, called, feeds, settled⟩ := calls_settle forwards isOpen
  have commits : ∀ answer, .commit answer ∈ t.calls ↔ .commit answer ∈ settling := by
    intro answer
    simp [called, feeds.uncommitted answer]
  obtain ⟨adding, finishing, rfl, hands, once, well⟩ := feeds
  generalize read : t.reading.1.1 = reading at settled well
  generalize told : t.outcome = outcome at settled
  cases settled with
  | panicked text => exact absurd (ran_of_panicked isOpen read) (calm text)
  | unread e =>
    refine ⟨⟨adding, finishing, [], [.abort], by simp [called], hands, once, .inl rfl,
      .inr ⟨by simp, rfl⟩⟩, ?_, ?_, ?_, ?_⟩
    all_goals simp [told, commits, TaskOutcome.failed, TaskOutcome.isCommitted]
  | refused report e =>
    have ran := ((reading_ok_iff isOpen report).mp read).1
    refine ⟨⟨adding, finishing, [.commit (.error e)], [.abort], by simp [called], hands, once,
      .inr ⟨_, rfl, ⟨report, ran⟩, well ⟨report, rfl⟩⟩, .inr ⟨by simp, rfl⟩⟩, ?_, ?_, ?_, ?_⟩
    all_goals simp [told, commits, TaskOutcome.isCommitted]
  | committed report outputReport =>
    have ran := ((reading_ok_iff isOpen report).mp read).1
    refine ⟨⟨adding, finishing, [.commit (.ok outputReport)], [], by simp [called], hands, once,
      .inr ⟨_, rfl, ⟨report, ran⟩, well ⟨report, rfl⟩⟩, .inl ⟨⟨_, rfl⟩, rfl⟩⟩, ?_, ?_, ?_, ?_⟩
    all_goals simp [told, commits, TaskOutcome.isCommitted, eq_comm]

/-- Behind a filter that passes the page and one that takes it apart, a commit is refused. -/
theorem refused_commit_keeps_protocol :
    let t := rehearsed [renames, raising] (.answering (.ok ()) (.error (.other "no room")))
    t.calls.length = 5 ∧ t.KeepsProtocol := by
  refine ⟨by decide +kernel, output_is_settled_once_and_closed _ rfl ?_ ?_⟩
  · intro f hm
    rcases List.mem_cons.mp hm with rfl | hm
    · exact Rename.filter_forwards _ _ _
    · rw [List.mem_singleton.mp hm]
      exact Rehearsal.filter_forwards _ _ _ _
  · have gives : ((rehearsed [renames, raising] (.answering (.ok ())
        (.error (.other "no room")))).ran.bind Except.toOption).isSome := by decide +kernel
    intro text panicked
    simp [panicked, Except.toOption] at gives

theorem ended_unopened {e : PluginError} (failed : t.opening.1.1 = .error e) :
    t.ended = ((.failed t.index e, t.opening.1.2), t.opening.2) := by
  have refused : ((o.sink.start.attempt o.initial).run t.world).1.1 = .error e := failed
  unfold ended TaskPlan.performIn
  rw [SureCall.run_bind, refused]
  rfl

/-- What the reports of a task tell. That of the output is there exactly if the output has given it to a
commit. That of the input is there exactly if the input has given it and the chain behind it could be
finished; so an input that has given its report, and is committed, is forgotten when the chain cannot be
finished. A file-based input gives a report exactly if its file input has given it to a commit. -/
theorem reports_tell_commits {o : PageOutput} (t : TaskRun o.watched)
    (forwards : ∀ f ∈ t.plan.filters, f.Forwards) :
    (∀ report, t.outcome.inputReport = some report ↔
      t.ran = some (.ok report) ∧ t.finished = some (.ok ())) ∧
    (∀ report, t.outcome.outputReport = some report ↔ .commit (.ok report) ∈ t.calls) ∧
    ∀ {σ : Type} (x : FileReading σ), x.IsSound →
      ∃ calls, x.log x.ended.2 = x.log x.world ++ calls ∧
        ∀ report, x.ended.1.1 = .ok report ↔ .commit (.ok report) ∈ calls := by
  refine ⟨fun report => ?_, fun report => ?_, fun x sound => x.report_iff_committed sound⟩
  · cases opened : t.opening.1.1 with
    | error e => simp [outcome_eq, ended_unopened opened, TaskOutcome.failed, ran, opened]
    | ok _ =>
      obtain ⟨_, _, -, -, settled⟩ := calls_settle forwards opened
      rw [← reading_ok_iff opened]
      generalize t.reading.1.1 = reading at settled
      generalize t.outcome = outcome at settled
      cases settled <;> simp [TaskOutcome.failed]
  · cases opened : t.opening.1.1 with
    | error e => simp [outcome_eq, ended_unopened opened, TaskOutcome.failed, calls, opening_calls]
    | ok _ =>
      obtain ⟨fed, settling, called, feeds, settled⟩ := calls_settle forwards opened
      have commits : .commit (.ok report) ∈ t.calls ↔ .commit (.ok report) ∈ settling := by
        simp [called, feeds.uncommitted]
      rw [commits]
      generalize t.reading.1.1 = reading at settled
      generalize t.outcome = outcome at settled
      cases settled <;> simp [TaskOutcome.failed, eq_comm]

theorem unfiltered_forwards (o : PageOutput) :
    ∀ f ∈ (rehearsed [] o).plan.filters, f.Forwards :=
  fun _ hm => absurd hm List.not_mem_nil

/-- Where all goes well, the outcome has the report that the input has given. -/
theorem rehearsed_reports :
    (rehearsed [] (.answering (.ok ()) (.ok Document.empty))).outcome.inputReport =
      some (Document.empty.set "index" (.ofNat 0)) :=
  ((reports_tell_commits _ (unfiltered_forwards _)).1 _).mpr ⟨rfl, rfl⟩

/-- An input that has given its report is committed, and yet it has no report in the outcome when the
chain behind it could not be finished. -/
theorem unfinished_chain_forgets_report : ¬ ∀ {o : PageOutput} (t : TaskRun o.watched),
    (∀ f ∈ t.plan.filters, f.Forwards) → ∀ report,
      t.outcome.inputReport = some report ↔ t.ran = some (.ok report) := by
  intro claimed
  have kept := (claimed (rehearsed [] (.answering (.error (.other "no end")) (.ok Document.empty)))
    (unfiltered_forwards _) (Document.empty.set "index" (.ofNat 0))).mpr rfl
  have forgotten : (rehearsed [] (.answering (.error (.other "no end"))
    (.ok Document.empty))).outcome.inputReport = none := rfl
  rw [forgotten] at kept
  cases kept

end TaskRun

end BulkTransfer
