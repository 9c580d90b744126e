import BulkTransfer.Proofs.Local.LastPath
import BulkTransfer.Proofs.Local.Search
import BulkTransfer.Proofs.Plugin.Reliance
import BulkTransfer.Proofs.Text.Utf8
import BulkTransfer.Proofs.Transfer.Attempts
import BulkTransfer.Proofs.Transfer.Chain
/-!
# Incremental runs

Runs of the input of local files, each from the config that the one before has come to. A run reads the
files that sort behind the last path it starts with and moves that path on, so no file is read twice, and
every file that comes in behind the last path is read once.
-/
namespace BulkTransfer

open LocalInput (Search Files Below)

section Flights

namespace Executor

variable {plugins : TransferPlugins} {t : Flight}

theorem runTasks_inputTask : Yields (runTasks plugins) t fun _ t' =>
    t'.progress.inputTask = t.progress.inputTask := by
  refine Yields.get_bind ?_
  cases t.progress.plan plugins with
  | error e => exact Yields.pure rfl
  | ok plan =>
    refine Yields.get_bind (Yields.modify_bind (Yields.get_bind ?_))
    refine Yields.bind (P := fun _ t' => t'.progress.inputTask = t.progress.inputTask)
      (Yields.action fun _ => rfl) fun crew t' same => ?_
    refine Yields.modify_bind (Yields.get_bind ?_)
    have settled : (t'.settle crew).progress.inputTask = t.progress.inputTask := by
      change (t'.progress.recordAll crew.outcomes).inputTask = _
      rw [(t'.progress.recordAll_frame crew.outcomes).1]
      exact same
    dsimp only
    split
    · exact Yields.pure settled
    · exact Yields.pure settled

theorem handOver_inputTask (side : TaskPhase) : Yields (handOver side) t fun _ t' =>
    t'.progress.inputTask = t.progress.inputTask := by
  refine Yields.get_bind ?_
  cases t.progress.reportsOf side with
  | error e => exact Yields.pure rfl
  | ok reports => exact Yields.modify_bind (Yields.pure rfl)

theorem runOutput_inputTask (isResuming : Bool) (schema : Schema) :
    Yields (runOutput plugins isResuming schema) t fun _ t' =>
      t'.progress.inputTask = t.progress.inputTask := by
  refine Yields.get_bind (Yields.bind (Yields.drive
    (P := fun t' => t'.progress.inputTask = t.progress.inputTask) rfl fun task => ?_) ?_)
  · refine Yields.modify_bind (Yields.bind runTasks_inputTask fun result t' same => ?_)
    cases result with
    | error e => exact Yields.pure same
    | ok _ => exact (handOver_inputTask .output).mono fun _ _ kept => kept.trans same
  · intro result t' same
    cases result with
    | error e => exact Yields.pure same
    | ok diff => exact Yields.modify_bind (Yields.pure same)

theorem runFilters_inputTask (filters : List FilterChoice) (schema : Schema) :
    Yields (runFilters plugins filters schema) t fun _ t' =>
      t'.progress.inputTask = t.progress.inputTask := by
  induction filters generalizing t schema with
  | nil => exact runOutput_inputTask false schema
  | cons f rest ih =>
    refine Yields.drive rfl fun request => Yields.modify_bind ?_
    exact (ih request.schema).mono fun _ _ same => same

/-- What the input has frozen stays in the flight, and what its control answers has been handed over. -/
theorem inputControl_enters (request : InputRequest) :
    Yields (inputControl plugins request) t fun r t' => t'.progress.inputTask = some request.task ∧
      ∀ reports, r = .ok reports → .reported .input reports ∈ t'.events := by
  refine Yields.modify_bind (Yields.bind (runFilters_inputTask plugins.filters request.schema) ?_)
  intro result t' same
  cases result with
  | error e => exact Yields.pure ⟨same, fun _ failed => by cases failed⟩
  | ok _ =>
    refine Yields.get_bind ?_
    cases t'.progress.reportsOf .input with
    | error e => exact Yields.pure ⟨same, fun _ failed => by cases failed⟩
    | ok reports =>
      refine Yields.modify_bind (Yields.pure ⟨same, fun reports' given => ?_⟩)
      cases given
      exact List.mem_append_right _ (List.mem_singleton_self _)

end Executor

/-- When all reports of the input have been handed over, all tasks have run and their inputs have
committed. -/
theorem Flight.Settled.all_read {count : Nat} {t : Flight} {reports : List Report}
    (h : t.Settled (List.replicate count .blank)) (given : .reported .input reports ∈ t.events) :
    ∀ i < count, .launched i ∈ t.events ∧
      ∃ o, .ended o ∈ t.events ∧ o.index = i ∧ o.inputReport.isSome := by
  intro i hi
  have sides := h.reported .input reports given
  have committed : ∀ slot, t.progress.slots[i]? = some slot → slot.input.isSome := by
    intro slot there
    have side := congrArg (·[i]?) sides
    simp only [List.getElem?_map, there, Option.map_some] at side
    cases report : reports[i]? with
    | none => simp [report] at side
    | some r =>
      simp only [report, Option.map_some, Option.some.injEq] at side
      exact Option.isSome_iff_exists.mpr ⟨r, side⟩
  have blank : (List.replicate count TaskSlot.blank)[i]? = some .blank := by simp [hi]
  have started : t.progress.hasStarted = true := by
    cases started : t.progress.hasStarted with
    | true => rfl
    | false =>
      have there := (h.idle started).1 ▸ blank
      cases committed _ there
  obtain ⟨⟨o, ended, index⟩, launched⟩ := h.served started i _ blank rfl
  subst index
  refine ⟨launched.resolve_right fun cancelled => ?_, o, ended, rfl, ?_⟩
  · cases committed _ (h.recorded (.failed o.index .cancelled) cancelled)
  · exact committed _ (h.recorded o ended)

end Flights

section Inputs

/-- An input of local files gives up, or goes on with the files that it has listed. -/
theorem LocalInput.transaction_run (config : Config) (w : World) :
    (∃ e w', (transaction config).run w = (Transaction.finish (.error e) :
        Transaction FileInputRequest (List Report) Report).run w') ∨
      ∃ search files, config.load Search.shape = .ok search ∧ (list search w.disk).1 = .ok files ∧
        (transaction config).run w = (resume (Files.toTask ⟨files, search.lastPath⟩) files.length).run
          { w with disk := (list search w.disk).2 } := by
  unfold transaction
  cases loaded : config.load Search.shape with
  | error e => exact .inl ⟨.config e, w, rfl⟩
  | ok search =>
    have ran : (Program.onDisk (list search) : Action _).run w =
      ((list search w.disk).1, { w with disk := (list search w.disk).2 }) := rfl
    dsimp only
    rw [Program.run_andThen, ran]
    dsimp only
    cases listed : (list search w.disk).1 with
    | error e => exact .inl ⟨e, _, rfl⟩
    | ok files => exact .inr ⟨search, files, rfl, listed, rfl⟩

theorem LocalInput.resume_relies (files : Files) (count : Nat) :
    (resume files.toTask count).Relies fun q _ diff =>
      q = ⟨files.toTask, count⟩ ∧ diff = files.diff := by
  unfold resume
  rw [Files.ofTask_toTask]
  exact Transaction.Relies.callThen fun _ => ⟨rfl, rfl⟩

/-- A transfer whose input are local files succeeds only after their tasks have, and with the diff of the
files that were listed when it began. -/
theorem LocalInput.drive_ok {σ : Type} {decoders : List DecoderPlugin} {parser : ParserPlugin}
    {config : Config} {control : InputRequest → StateT σ Action (Attempt (List Report))} {s s' : σ}
    {w w' : World} {diff : Report}
    (done : (((FileBasedInput.mk plugin decoders parser).transaction config).drive control s).run w =
      ((.ok diff, s'), w')) :
    ∃ search files, config.load Search.shape = .ok search ∧ (list search w.disk).1 = .ok files ∧
      diff = Files.diff ⟨files, search.lastPath⟩ ∧ ∃ (q : InputRequest) (parts : FileBasedInputTask)
        (before : World) (reports : List Report) (after : World),
          (control q s).run before = ((.ok reports, s'), after) ∧ q.taskCount = files.length ∧
            q.task = parts.toTask ∧ parts.fileInputTask = Files.toTask ⟨files, search.lastPath⟩ := by
  unfold FileBasedInput.transaction at done
  split at done
  · rw [Transaction.run_drive] at done
    cases done
  · rw [Transaction.run_drive] at done
    cases done
  · rename_i decoderConfigs parserConfig _ _
    rcases transaction_run config w with ⟨e, w₁, ran⟩ | ⟨search, files, loaded, listed, ran⟩
    · replace done := (Transaction.drive_run (Transaction.nest_run ran)).symm.trans done
      rw [Transaction.run_drive] at done
      cases done
    · replace done := (Transaction.drive_run (Transaction.nest_run ran)).symm.trans done
      have relies := FileBasedInput.around_relies ⟨plugin, decoders, parser⟩ decoderConfigs parserConfig
        (resume_relies ⟨files, search.lastPath⟩ files.length)
      obtain ⟨q, before, reports, after, answered, request, ⟨rfl, made⟩, count, parts, frozen, inside⟩ :=
        relies.drive done
      exact ⟨search, files, loaded, listed, made, q, parts, before, reports, after, answered, count,
        frozen, inside⟩

end Inputs

section Runs

open LocalInput (rootOf startsWith)

theorem TransferPlugins.resolve_sections {registry : Registry} {config : Config}
    {plugins : TransferPlugins} (h : resolve registry config = .ok plugins) : section? config "in" =
      .ok plugins.inputConfig ∧ section? config "out" = .ok plugins.outputConfig := by
  unfold resolve at h
  split at h
  · cases h
  · cases h
  · cases h
  · rename_i wanted given _
    split at h
    · cases h
    · split at h
      · cases h
      · cases h
      · cases h
        exact ⟨wanted, given⟩

/-- What the input of a config searches for. -/
def LocalInput.searchOf (config : Config) : Option Search := do
  let input ← (TransferPlugins.section? config "in").toOption
  (input.load Search.shape).toOption

theorem LocalInput.searchOf_eq {config inner : Config} {search : Search}
    (given : TransferPlugins.section? config "in" = .ok inner)
    (loaded : inner.load Search.shape = .ok search) : searchOf config = some search := by
  rw [searchOf, given]
  simp only [Except.toOption, Option.bind_eq_bind, Option.bind_some]
  rw [loaded]

/-- The path sorts behind the last one, by its bytes. -/
def LocalInput.Behind (last : Option String) (path : String) : Prop :=
  ∀ l ∈ last, Utf8.encode l < Utf8.encode path

/-- The later last path, if there is a last one, is not before it. -/
def LocalInput.MovesOn (last later : Option String) : Prop :=
  ∀ l ∈ last, ∃ l' ∈ later, Utf8.encode l ≤ Utf8.encode l'

namespace LocalInput

variable {a b c : Option String} {path : String}

theorem behind_iff : Behind a path ↔ ∀ l ∈ a, l < path :=
  forall₂_congr fun _ _ => Utf8.encode_lt

theorem movesOn_iff : MovesOn a b ↔ ∀ l ∈ a, ∃ l' ∈ b, l ≤ l' := by
  have le : ∀ l l' : String, Utf8.encode l ≤ Utf8.encode l' ↔ l ≤ l' := fun l l' => by
    rw [← List.not_lt, Utf8.encode_lt, String.not_lt]
  simp only [MovesOn, le]

theorem MovesOn.refl (a : Option String) : MovesOn a a :=
  movesOn_iff.mpr fun l hl => ⟨l, hl, String.le_refl l⟩

theorem MovesOn.trans (h : MovesOn a b) (h' : MovesOn b c) : MovesOn a c := by
  rw [movesOn_iff] at h h' ⊢
  intro l hl
  obtain ⟨l', hl', le⟩ := h l hl
  obtain ⟨l'', hl'', le'⟩ := h' l' hl'
  exact ⟨l'', hl'', String.le_trans le le'⟩

theorem Behind.of_movesOn (h : Behind b path) (on : MovesOn a b) : Behind a path := by
  rw [behind_iff] at h ⊢
  intro l hl
  obtain ⟨l', hl', le⟩ := movesOn_iff.mp on l hl
  exact String.not_le.mp fun back => String.not_lt.mpr (String.le_trans back le) (h l' hl')

end LocalInput

open LocalInput (Behind MovesOn)

/-- The files that the input of a flight has frozen. -/
def Flight.frozenFiles? (t : Flight) : Option (List String) := do
  let task ← t.progress.inputTask
  let parts ← (FileBasedInputTask.ofTask task).toOption
  let files ← (Files.ofTask parts.fileInputTask).toOption
  return files.files

/-- The control of an input has answered well only when the tasks of all frozen files have read them. -/
theorem Executor.inputControl_reads {plugins : TransferPlugins} {exec : ExecConfig} {q : InputRequest}
    {parts : FileBasedInputTask} {f : Files} {before after : World} {reports : List Report} {t : Flight}
    (answered : (inputControl plugins q (.ofProgress exec .fresh)).run before = ((.ok reports, t), after))
    (count : q.taskCount = f.files.length) (frozen : q.task = parts.toTask)
    (inside : parts.fileInputTask = f.toTask) :
    t.frozenFiles? = some f.files ∧ t.progress.taskCount = f.files.length ∧
      ∀ i < f.files.length, .launched i ∈ t.events ∧
        ∃ o, .ended o ∈ t.events ∧ o.index = i ∧ o.inputReport.isSome := by
  have entered : Leads (inputControl plugins q) (.ofProgress exec .fresh) before _ :=
    inputControl_enters q before
  have settled : Leads (inputControl plugins q) (.ofProgress exec .fresh) before _ :=
    inputControl_settles q before
  unfold Leads at entered settled
  rw [answered] at entered settled
  refine ⟨?_, ?_, count ▸ settled.all_read (entered.2 reports rfl)⟩
  · rw [Flight.frozenFiles?, entered.1, frozen]
    simp [FileBasedInputTask.ofTask_toTask, inside, Files.ofTask_toTask, Except.toOption]
  · rw [← count, ← List.length_replicate (n := q.taskCount) (a := TaskSlot.blank)]
    exact settled.count

/-- A committed run, not a resumed one, whose input are local files, read by whatever decoders and parser
there are and written by whatever output. Nothing vanishes while it is being listed. -/
structure IncrementalRun where
  registry : Registry
  store : Option StateStore
  config : Config
  world : World
  outcome : RunOutcome
  plugins : TransferPlugins
  decoders : List DecoderPlugin
  parser : ParserPlugin
  resolved : TransferPlugins.resolve registry config = .ok plugins
  input : plugins.input = FileBasedInput.toInputPlugin ⟨LocalInput.plugin, decoders, parser⟩
  proper : world.disk.IsProper
  present : ∀ n path, world.disk.refusal n (.list path) ≠ some .notFound
  commits : ((Runner.run registry store config).run world).1 = .ok outcome
  isFresh : outcome.isResumed = false

namespace IncrementalRun

/-- How the transfer of the run has ended. -/
def landing? (r : IncrementalRun) : Option Landing :=
  (Executor.departure r.registry r.config).toOption.map fun d =>
    (d.fly.run ((Runner.loadState r.store).run r.world).2).1

/-- The files of the tasks, in their order. -/
def files (r : IncrementalRun) : List String :=
  (r.landing?.bind (·.flight.frozenFiles?)).getD []

def taskCount? (r : IncrementalRun) : Option Nat :=
  r.landing?.map (·.flight.progress.taskCount)

/-- The file was read: its task was launched, and the input of the task has committed. -/
def Reads (r : IncrementalRun) (path : String) : Prop :=
  ∃ i l, r.files[i]? = some path ∧ r.landing? = some l ∧ .launched i ∈ l.flight.events ∧
    ∃ o, .ended o ∈ l.flight.events ∧ o.index = i ∧ o.inputReport.isSome

def search (r : IncrementalRun) : Search := (LocalInput.searchOf r.config).getD ⟨"", none⟩

/-- What the next run searches for. -/
def next (r : IncrementalRun) : Search := (LocalInput.searchOf r.outcome.nextConfig).getD ⟨"", none⟩

/-- At the beginning of the run there is a file at the path, and the path starts as wanted. -/
def Matches (r : IncrementalRun) (path : String) : Prop :=
  Below r.world.disk (rootOf r.search.start) path ∧ startsWith path r.search.start = true

/-- A run starts from the config that an earlier one has come to, whatever others have done to the disk
in between. -/
structure Follows (a b : IncrementalRun) : Prop where
  config : b.config = a.outcome.nextConfig

/-- Files that have come in between sort behind the last path. -/
def ArrivalsBehind (a b : IncrementalRun) : Prop :=
  ∀ path, b.Matches path → ¬ a.Matches path → Behind b.search.lastPath path

/-- What a run has done, in the end. -/
structure Done (r : IncrementalRun) (l : Landing) : Prop where
  landed : r.landing? = some l
  search : LocalInput.searchOf r.config = some r.search
  listed : ∃ d : Disk, d.nodes = r.world.disk.nodes ∧ d.refusal = r.world.disk.refusal ∧
    (LocalInput.list r.search d).1 = .ok r.files
  count : l.flight.progress.taskCount = r.files.length
  read : ∀ i < r.files.length, .launched i ∈ l.flight.events ∧
    ∃ o, .ended o ∈ l.flight.events ∧ o.index = i ∧ o.inputReport.isSome
  next : LocalInput.searchOf r.outcome.nextConfig =
    some ⟨r.search.start, r.files.getLast?.or r.search.lastPath⟩

/-- The transfer of a run that has committed afresh. -/
theorem departs (r : IncrementalRun) : ∃ d, Executor.departure r.registry r.config = .ok d ∧
    (d.fly.run ((Runner.loadState r.store).run r.world).2).1.conclude = .ok r.outcome.result ∧
      r.outcome.nextConfig = r.config.merge r.outcome.result.diff := by
  have commits := r.commits
  rw [Runner.run_eq] at commits
  generalize (Runner.loadState r.store).run r.world = loaded at commits
  obtain ⟨loaded, w⟩ := loaded
  cases loaded with
  | error e => cases commits
  | ok saved =>
    obtain ⟨result, ended, outcome⟩ := Runner.finish_ok commits
    have isFresh := r.isFresh
    rw [outcome] at isFresh ⊢
    obtain rfl : saved = none := Option.isSome_eq_false_iff.mp isFresh |> Option.isNone_iff_eq_none.mp
    cases departs : Executor.departureFrom r.registry r.config none with
    | error e =>
      rw [Executor.attempt_grounded departs] at ended
      cases ended
    | ok d =>
      rw [Executor.attempt_departs departs] at ended
      exact ⟨d, departs, ended, rfl⟩

theorem exists_done (r : IncrementalRun) : ∃ l, r.Done l := by
  obtain ⟨d, departs, ended, nextConfig⟩ := r.departs
  obtain ⟨inputDiff, result, both⟩ := Landing.result_of_conclude ended
  obtain ⟨outputDiff, total⟩ : ∃ outputDiff, r.outcome.result.diff =
    (Document.empty.setNested "in" inputDiff).setNested "out" outputDiff := ⟨_, both⟩
  clear both
  have landed : r.landing? = some (d.fly.run ((Runner.loadState r.store).run r.world).2).1 := by
    rw [landing?, departs]
    rfl
  obtain ⟨n, clock⟩ := Runner.loadState_disk r.store r.world
  rw [clock] at landed result
  obtain ⟨execConfig, exec, plugins, resolved, rfl⟩ := Executor.departure_ok departs
  obtain rfl : plugins = r.plugins := Except.ok.inj (resolved.symm.trans r.resolved)
  obtain ⟨wanted, -⟩ := TransferPlugins.resolve_sections resolved
  rw [Executor.fly_run] at landed result
  dsimp only at landed result
  generalize driven : Program.run _ _ = ran at landed result
  obtain ⟨⟨answer, flight⟩, after⟩ := ran
  dsimp only at result
  subst result
  rw [r.input] at driven
  obtain ⟨search, files, loaded, listed, rfl, q, parts, before, reports, _, answered, count, frozen,
    inside⟩ := LocalInput.drive_ok driven
  obtain ⟨held, counted, all⟩ := Executor.inputControl_reads (f := ⟨files, search.lastPath⟩) answered count
    frozen inside
  have kept : r.files = files := by
    rw [IncrementalRun.files, landed, Option.bind_some, held, Option.getD_some]
  have searched := LocalInput.searchOf_eq wanted loaded
  have same : r.search = search := by rw [IncrementalRun.search, searched, Option.getD_some]
  have onward : LocalInput.searchOf r.outcome.nextConfig =
      some ⟨search.start, files.getLast?.or search.lastPath⟩ := by
    rw [nextConfig, total]
    exact LocalInput.searchOf_eq (LocalInput.section_in_merge _ outputDiff wanted)
      (LocalInput.load_merge loaded rfl)
  subst same
  subst kept
  exact ⟨_, landed, searched, ⟨{ r.world.disk with clock := n }, rfl, rfl, listed⟩, counted, all, onward⟩

/-- The files are the ones that match and are new, in their order. -/
theorem files_exact (r : IncrementalRun) :
    r.files.Pairwise (fun a b => Utf8.encode a < Utf8.encode b) ∧
      ∀ path, path ∈ r.files ↔ r.Matches path ∧ Behind r.search.lastPath path := by
  obtain ⟨l, done⟩ := r.exists_done
  obtain ⟨d, nodes, refusal, listed⟩ := done.listed
  have proper : d.IsProper := ⟨nodes ▸ r.proper.distinct, nodes ▸ r.proper.named⟩
  obtain ⟨sorted, exact⟩ := LocalInput.list_exact proper (refusal ▸ r.present) listed
  refine ⟨sorted.imp Utf8.encode_lt.mpr, fun path => (exact path).trans ?_⟩
  rw [Matches, LocalInput.behind_iff, and_assoc]
  exact and_congr_left fun _ => ⟨Below.congr nodes.symm, Below.congr nodes⟩

/-- Whenever the disk is listed, it gives the files of the run. -/
theorem files_eq (r : IncrementalRun) {n : Nat} {files : List String}
    (listed : (LocalInput.list r.search { r.world.disk with clock := n }).1 = .ok files) :
    r.files = files := by
  obtain ⟨sorted, exact⟩ := LocalInput.list_exact (d := { r.world.disk with clock := n })
    ⟨r.proper.distinct, r.proper.named⟩ r.present listed
  obtain ⟨sorted', exact'⟩ := r.files_exact
  have : Std.Irrefl fun a b : String => a < b := ⟨String.lt_irrefl⟩
  refine (sorted'.imp Utf8.encode_lt.mp).eq_of_mem_iff sorted fun path => ?_
  rw [exact', exact, Matches, LocalInput.behind_iff, and_assoc]
  exact and_congr_left fun _ => ⟨Below.congr rfl, Below.congr rfl⟩

theorem reads_iff (r : IncrementalRun) (path : String) : r.Reads path ↔ path ∈ r.files := by
  constructor
  · rintro ⟨i, l, there, -⟩
    exact List.mem_of_getElem? there
  · intro hm
    obtain ⟨i, there⟩ := List.mem_iff_getElem?.mp hm
    obtain ⟨l, done⟩ := r.exists_done
    obtain ⟨hi, -⟩ := List.getElem?_eq_some_iff.mp there
    obtain ⟨launched, ended⟩ := done.read i hi
    exact ⟨i, l, there, done.landed, launched, ended⟩

theorem next_eq (r : IncrementalRun) :
    r.next = ⟨r.search.start, r.files.getLast?.or r.search.lastPath⟩ := by
  obtain ⟨l, done⟩ := r.exists_done
  rw [next, done.next, Option.getD_some]

/-- What has been read does not sort behind the last path that the run leaves. -/
theorem not_behind (r : IncrementalRun) {path : String} (hm : path ∈ r.files) :
    ¬ Behind r.next.lastPath path := by
  obtain ⟨sorted, -⟩ := r.files_exact
  obtain ⟨before, last, eq⟩ := (List.eq_nil_or_concat' _).resolve_left (List.ne_nil_of_mem hm)
  rw [r.next_eq, eq, List.getLast?_concat]
  intro behind
  have less := behind last rfl
  rw [eq] at sorted hm
  rcases List.mem_append.mp hm with hm | hm
  · have other := (List.pairwise_append.mp sorted).2.2 path hm last (List.mem_singleton_self _)
    exact List.lt_irrefl _ (List.lt_trans less other)
  · rw [List.mem_singleton.mp hm] at less
    exact List.lt_irrefl _ less

theorem moves_on (r : IncrementalRun) : MovesOn r.search.lastPath r.next.lastPath := by
  rw [r.next_eq]
  cases ended : r.files.getLast? with
  | none => exact MovesOn.refl _
  | some last =>
    have new := ((r.files_exact.2 last).mp (List.mem_of_getLast? ended)).2
    exact fun l hl => ⟨last, rfl, List.le_of_lt (new l hl)⟩

/-- What is true of each run on its own. -/
structure Incremental (r : IncrementalRun) : Prop where
  /-- The run searches for what its config says, and the next one for what the diff makes of it. -/
  search : LocalInput.searchOf r.config = some r.search
  next : LocalInput.searchOf r.outcome.nextConfig = some r.next
  merged : r.outcome.nextConfig = r.config.merge r.outcome.result.diff
  /-- There is one task for each file that matches and is new, in the order of the files. -/
  ordered : r.files.Pairwise fun a b => Utf8.encode a < Utf8.encode b
  exact : ∀ path, path ∈ r.files ↔ r.Matches path ∧ Behind r.search.lastPath path
  tasks : r.taskCount? = some r.files.length
  /-- The files of the tasks are the ones that are read. -/
  reads : ∀ path, r.Reads path ↔ path ∈ r.files
  start : r.next.start = r.search.start
  advances : MovesOn r.search.lastPath r.next.lastPath
  keeps : r.files = [] → r.next.lastPath = r.search.lastPath

theorem incremental (r : IncrementalRun) : r.Incremental := by
  obtain ⟨l, done⟩ := r.exists_done
  obtain ⟨-, -, -, merged⟩ := r.departs
  obtain ⟨ordered, exact⟩ := r.files_exact
  exact {
    search := done.search
    next := r.next_eq ▸ done.next
    merged, ordered, exact
    tasks := by rw [taskCount?, done.landed, Option.map_some, done.count]
    reads := r.reads_iff
    start := by rw [r.next_eq]
    advances := r.moves_on
    keeps := fun none => by rw [r.next_eq, none, List.getLast?_nil, Option.none_or] }

section Chains

variable {runs : List IncrementalRun}

theorem Follows.search {a b : IncrementalRun} (h : Follows a b) : b.search = a.next := by
  rw [IncrementalRun.search, IncrementalRun.next, h.config]

/-- The last path of a chain only moves on. -/
theorem chain_moves_on (chain : runs.IsChain Follows) :
    runs.Pairwise fun a b => MovesOn a.next.lastPath b.search.lastPath := by
  have : IsTrans IncrementalRun fun a b => MovesOn a.next.lastPath b.search.lastPath :=
    ⟨fun _ b _ h h' => (h.trans b.moves_on).trans h'⟩
  refine List.isChain_iff_pairwise.mp (chain.imp fun a b (h : Follows a b) => ?_)
  rw [h.search]
  exact MovesOn.refl _

/-- What is read before the last path of a run is not read again. -/
theorem not_read_again {a b : IncrementalRun} (on : MovesOn a.next.lastPath b.search.lastPath)
    {path : String} (read : a.Reads path) : ¬ b.Reads path := by
  rw [reads_iff] at read ⊢
  exact fun again => a.not_behind read (((b.files_exact.2 path).mp again).2.of_movesOn on)

/-- A file that is there and was behind the last path in the beginning has been read by now, when no other
files come in than behind the last path. -/
theorem read_by {first : IncrementalRun} (head : runs.head? = some first)
    (arrivals : runs.IsChain ArrivalsBehind) {path : String} (new : Behind first.search.lastPath path)
    (k : Nat) : ∀ r, runs[k]? = some r → r.Matches path → ∃ i ≤ k, ∃ r', runs[i]? = some r' ∧
      r'.Reads path := by
  induction k with
  | zero =>
    intro r there matched
    rw [← List.head?_eq_getElem?, head] at there
    cases there
    refine ⟨0, le_rfl, first, head ▸ List.head?_eq_getElem?.symm, ?_⟩
    exact (first.reads_iff path).mpr ((first.files_exact.2 path).mpr ⟨matched, new⟩)
  | succ k ih =>
    intro r there matched
    by_cases behind : Behind r.search.lastPath path
    · exact ⟨k + 1, le_rfl, r, there,
        (r.reads_iff path).mpr ((r.files_exact.2 path).mpr ⟨matched, behind⟩)⟩
    · obtain ⟨hk, rfl⟩ := List.getElem?_eq_some_iff.mp there
      have before : runs[k]? = some runs[k] := List.getElem?_eq_getElem (by omega)
      have matched' : runs[k].Matches path := by
        by_contra absent
        exact behind (arrivals.getElem k hk path matched absent)
      obtain ⟨i, le, read⟩ := ih runs[k] before matched'
      exact ⟨i, by omega, read⟩

/-- Each run of a chain of committed runs reads what is new behind the last path, and moves that on. So no
path is read by two of them; and when all files that come in in between sort behind the last path, each
file behind the one that the chain began with is read by exactly one of them. -/
theorem files_read_once (chain : runs.IsChain Follows) :
    (∀ r ∈ runs, r.Incremental) ∧ runs.IsChain (fun a b => b.search = a.next) ∧
      runs.Pairwise (fun a b => MovesOn a.search.lastPath b.search.lastPath ∧
        ∀ path, ¬ (a.Reads path ∧ b.Reads path)) ∧
      (runs.IsChain ArrivalsBehind → ∀ first, runs.head? = some first → ∀ r ∈ runs, ∀ path,
        r.Matches path → Behind first.search.lastPath path →
          ∃! i : Nat, ∃ reader, runs[i]? = some reader ∧ reader.Reads path) := by
  have onward := chain_moves_on chain
  have apart : runs.Pairwise fun a b => MovesOn a.search.lastPath b.search.lastPath ∧
      ∀ path, ¬ (a.Reads path ∧ b.Reads path) :=
    onward.imp fun {a b} on => ⟨a.moves_on.trans on, fun path both => not_read_again on both.1 both.2⟩
  refine ⟨fun r _ => r.incremental, chain.imp fun a b (h : Follows a b) => h.search, apart, ?_⟩
  intro arrivals first head r hm path matched new
  obtain ⟨k, there⟩ := List.mem_iff_getElem?.mp hm
  obtain ⟨i, -, r', here, read⟩ := read_by head arrivals new k r there matched
  refine ⟨i, ⟨r', here, read⟩, ?_⟩
  rintro j ⟨r'', here', read'⟩
  obtain ⟨hi, rfl⟩ := List.getElem?_eq_some_iff.mp here
  obtain ⟨hj, rfl⟩ := List.getElem?_eq_some_iff.mp here'
  rw [List.pairwise_iff_getElem] at apart
  rcases Nat.lt_trichotomy i j with less | same | more
  · exact absurd ⟨read, read'⟩ ((apart i j hi hj less).2 path)
  · exact same.symm
  · exact absurd ⟨read', read⟩ ((apart j i hj hi more).2 path)

end Chains

section Copies

/-- A transfer of the built-in plugins that succeeds makes a run without a store. -/
theorem of_transfer {config : Config} {w : World} {d : Departure} {result : ExecutionResult}
    (departs : Executor.departure Registry.builtIn config = .ok d)
    (succeeds : (d.fly.run w).1.conclude = .ok result) (proper : w.disk.IsProper)
    (present : ∀ n path, w.disk.refusal n (.list path) ≠ some .notFound) :
    ∃ r : IncrementalRun, r.config = config ∧ r.world = w ∧
      r.outcome.nextConfig = config.merge result.diff := by
  obtain ⟨execConfig, exec, plugins, resolved, -⟩ := Executor.departure_ok departs
  have input := (TransferPlugins.resolve_cutting (Registry.cutting_regular ▸ resolved)).1
  have ended : ((Executor.run Registry.builtIn config).run w).1 = .ok result :=
    (congrArg Prod.fst (Executor.attempt_departs
      (show Executor.departureFrom Registry.builtIn config none = .ok d from departs))).trans succeeds
  exact ⟨{
    registry := Registry.builtIn, store := none, config, world := w
    outcome := ⟨result, config.merge result.diff, false⟩
    plugins, decoders := [], parser := Ltsv.parser, resolved, input, proper, present
    commits := by rw [Runner.run_ok ended]
    isFresh := rfl }, rfl, rfl, rfl⟩

/-- A third file that comes in behind two copied ones is read by the next run, and only by it. -/
theorem third_file_read_once : ∃ first second : IncrementalRun, [first, second].IsChain Follows ∧
    first.files = ["in/1", "in/2"] ∧ second.files = ["in/3"] ∧
      [first, second].IsChain ArrivalsBehind ∧
        ∃! i : Nat, ∃ reader, [first, second][i]? = some reader ∧ reader.Reads "in/3" := by
  obtain ⟨d, departs, checked⟩ := @copies_end "csv" true (fun l _ => l.result.toOption.isSome)
    (by decide +kernel)
  obtain ⟨result, succeeds⟩ := Interruption.concluded checked
  obtain ⟨d', departs', checked'⟩ := @leaves_ends copyingMore ⟨"in/", some "in/2"⟩ ["in/3"]
    (.ofDisk thirdAdded) thirdAdded.counted (fun l _ => l.result.toOption.isSome) thirdAdded_listed
      (by decide +kernel)
  obtain ⟨result', succeeds'⟩ := Interruption.concluded checked'
  obtain ⟨first, config, world, next⟩ := of_transfer departs succeeds (w := .ofDisk (twoFiles true))
    (by decide +kernel) (fun _ _ => nofun)
  obtain ⟨second, config', world', -⟩ := of_transfer departs' succeeds' (w := .ofDisk thirdAdded)
    (by decide +kernel) (fun _ _ => nofun)
  have chain : [first, second].IsChain Follows :=
    List.isChain_pair.mpr ⟨by rw [config', next, copies_next departs succeeds]⟩
  have search : first.search = ⟨"in/", none⟩ := by
    rw [IncrementalRun.search, config]
    rfl
  have search' : second.search = ⟨"in/", some "in/2"⟩ := by
    rw [IncrementalRun.search, config']
    rfl
  have files : first.files = ["in/1", "in/2"] := by
    refine first.files_eq (n := 0) ?_
    rw [search, world]
    exact congrArg Prod.fst (twoFiles_listed true)
  have files' : second.files = ["in/3"] := by
    refine second.files_eq (n := 0) ?_
    rw [search', world']
    exact congrArg Prod.fst thirdAdded_listed
  have arrivals : [first, second].IsChain ArrivalsBehind := by
    refine List.isChain_pair.mpr fun path there absent => ?_
    have old : path ∉ ["in/1", "in/2"] := files ▸ fun hm => absent ((first.files_exact.2 path).mp hm).1
    have all : (LocalInput.list ⟨"in/", none⟩ thirdAdded).1 = .ok ["in/1", "in/2", "in/3"] :=
      congrArg Prod.fst (LocalInput.list_found (s := ⟨"in/", none⟩) (d := thirdAdded) rfl (by decide))
    have still : ∀ n path, thirdAdded.refusal n (.list path) ≠ some .notFound := fun _ _ => nofun
    have exact := (LocalInput.list_exact (by decide +kernel) still all).2 path
    rw [Matches, search', world'] at there
    have found := exact.mpr ⟨there.1, there.2, fun _ none => nomatch none⟩
    obtain rfl : path = "in/3" := by
      simp only [List.mem_cons, List.not_mem_nil, or_false] at found old
      tauto
    rw [search', LocalInput.behind_iff]
    rintro _ ⟨⟩
    decide
  obtain ⟨-, -, -, once⟩ := files_read_once chain
  have third := (second.files_exact.2 "in/3").mp (files' ▸ List.mem_singleton_self _)
  refine ⟨first, second, chain, files, files', arrivals, ?_⟩
  refine once arrivals first rfl second (by simp) "in/3" third.1 ?_
  rw [search]
  exact fun _ none => nomatch none

end Copies

end IncrementalRun

end Runs

end BulkTransfer
