import BulkTransfer.Proofs.Transfer.Attempts
import BulkTransfer.Proofs.Transfer.Buffering
import BulkTransfer.Proofs.Transfer.Twins
/-!
# Scheduling

In which order the tasks of a transfer take their steps, and how many of them may run at a time, has no
say in what the transfer leaves on the disk and in what it tells, as long as the outputs of its tasks
are in places of their own.
-/
namespace BulkTransfer

/-- The state with another run ID and other settings. -/
def ResumeState.under (s : ResumeState) (runId : String) (execConfig : Config) : ResumeState :=
  { s with runId, execConfig }

/-- The files that the input of a saved state reads. -/
def ResumeState.inputFiles (s : ResumeState) : List String :=
  let saved : Attempt LocalInput.Files := do
    LocalInput.Files.ofTask (← FileBasedInputTask.ofTask s.inputTask).fileInputTask
  saved.toOption.elim [] LocalInput.Files.files

/-- The error with another run ID and other settings in the state that it carries. -/
def ExecutionError.under (runId : String) (execConfig : Config) : ExecutionError → ExecutionError
  | partiallyFailed state cause suppressed =>
    .partiallyFailed (state.under runId execConfig) cause suppressed
  | e => e

/-- A transfer in a world that schedules its tasks: a fresh one, or one that goes on from a saved
state. -/
structure Scheduled where
  config : Config
  saved : Option ResumeState
  world : World

namespace Scheduled

open LocalOutput (Naming tempPath)

def files (s : Scheduled) : List String :=
  match s.saved with
  | none => BulkTransfer.inputFiles s.config s.world.disk
  | some state => state.inputFiles

def outcome (s : Scheduled) : Except ExecutionError ExecutionResult × World :=
  (Executor.attempt Registry.builtIn s.config s.saved).run s.world

/-- What is told of the transfer, but for its counters. -/
def told (s : Scheduled) : Except ExecutionError Report := s.outcome.1.map ExecutionResult.diff

/-- The size of pages, if the settings are accepted. -/
def pageSize (s : Scheduled) : Except ConfigError Nat :=
  match s.saved with
  | none => (Executor.settings s.config).map fun settings => settings.2.pageSize
  | some state => (state.execConfig.load ExecConfig.shape).map ExecConfig.pageSize

/-- A saved state has frozen an order of the config. -/
def IsWhole (s : Scheduled) : Prop :=
  ∀ state, s.saved = some state →
    ∃ o, Order.ofConfig s.config o.files = .ok o ∧ Executor.Keeps o state

/-- The outputs of the tasks are in places of their own, none of which is that of an input, nor that of a
directory that is missing on the way to one. A fresh transfer finds its inputs where all of these are
there. -/
structure IsApart (s : Scheduled) (n : Naming) : Prop where
  outputs : n.Apart s.files.length
  inputs : ∀ i < s.files.length, ∀ path ∈ s.files, Path.place path ≠ Path.place (n.path i 0) ∧
    Path.place path ≠ Path.place (tempPath (n.path i 0))
  ways : s.saved.isSome → ∀ i < s.files.length, ∀ path ∈ s.files, ∀ m ∈ Disk.gates path,
    m = Path.place (n.path i 0) ∨ m = Path.place (tempPath (n.path i 0)) →
      s.world.disk.node? m = some .directory

/-- No task dies or is cancelled, and whether an access is refused depends on its paths alone. -/
structure IsCalm (s : Scheduled) : Prop where
  tasks : s.world.IsCalm
  disk : s.world.disk.IsSteady

/-- Both are one transfer on one disk, but for their schedules and how many tasks may run at a time. -/
structure Reschedules (a b : Scheduled) : Prop where
  config : a.config.AgreesBut b.config "exec"
  saved : ∀ runId execConfig,
    a.saved.map (·.under runId execConfig) = b.saved.map (·.under runId execConfig)
  pageSize : a.pageSize = b.pageSize
  disk : a.world.disk = b.world.disk

/-- Both have left the same everywhere on the disk. They tell the same, but that the state to resume from
has the run ID and the settings of each; where these are the same, it is the same altogether. -/
structure EndsLike (a b : Scheduled) : Prop where
  places : ∀ l, a.outcome.2.disk.node? l = b.outcome.2.disk.node? l
  told : ∀ runId execConfig, a.told.mapError (·.under runId execConfig) =
    b.told.mapError (·.under runId execConfig)
  exactly : a.config = b.config → a.saved = b.saved → a.told = b.told

theorem map_cases {ε α β : Type} {f : α → β} {x y : Except ε α} (h : x.map f = y.map f) :
    (∃ e, x = .error e ∧ y = .error e) ∨ ∃ a b, x = .ok a ∧ y = .ok b ∧ f a = f b := by
  cases x with
  | error e =>
    cases y with
    | error e' => exact .inl ⟨e, rfl, congrArg _ (Except.error.inj h).symm⟩
    | ok b => cases h
  | ok a =>
    cases y with
    | error e' => cases h
    | ok b => exact .inr ⟨a, b, rfl, rfl, Except.ok.inj h⟩

section Landings

variable {a b : Scheduled} {n : Naming} {d d' : Departure} {o : Order} {runId : String} {execConfig : Config}

theorem resumeState?_under (p : Progress) (runId runId' : String) (execConfig execConfig' : Config) :
    (p.resumeState? runId execConfig).map (·.under runId' execConfig') =
      p.resumeState? runId' execConfig' := by
  unfold Progress.resumeState?
  cases p.hasStarted with
  | false => rfl
  | true =>
    cases p.inputTask <;> cases p.outputTask <;> cases p.inputSchema <;> cases p.outputSchema <;> rfl

/-- Flights that have come to the same are told alike. -/
theorem conclude_alike {l l' : Landing} (result : l.result = l'.result)
    (alike : l.flight.Alike l'.flight) :
    (l.conclude.map ExecutionResult.diff).mapError (·.under runId execConfig) =
      (l'.conclude.map ExecutionResult.diff).mapError (·.under runId execConfig) := by
  have state : l.resumeState?.map (·.under runId execConfig) =
      l'.resumeState?.map (·.under runId execConfig) := by
    rw [Landing.resumeState?, Landing.resumeState?, alike.progress, resumeState?_under,
      resumeState?_under]
  unfold Landing.conclude
  rw [← result, alike.progress, alike.outputDiff]
  cases l.result with
  | ok diff => rfl
  | error e =>
    dsimp only
    cases left : l.resumeState? with
    | none =>
      rw [left, Option.map_none, eq_comm, Option.map_eq_none_iff] at state
      rw [state]
    | some s =>
      rw [left, Option.map_some, eq_comm, Option.map_eq_some_iff] at state
      obtain ⟨s', left', same⟩ := state
      rw [left']
      exact congrArg (fun s => Except.error (ExecutionError.partiallyFailed s _ _)) same.symm

/-- Under the same settings they are told the same. -/
theorem conclude_same {l l' : Landing} (result : l.result = l'.result) (alike : l.flight.Alike l'.flight)
    (runId : l.runId = l'.runId) (execConfig : l.execConfig = l'.execConfig) :
    l.conclude.map ExecutionResult.diff = l'.conclude.map ExecutionResult.diff := by
  have state : l.resumeState? = l'.resumeState? := by
    rw [Landing.resumeState?, Landing.resumeState?, alike.progress, runId, execConfig]
  unfold Landing.conclude
  rw [result, state, alike.progress, alike.outputDiff]
  cases l'.result with
  | ok diff => rfl
  | error e => rfl

/-- Where the transfers depart alike and their flights come to the same, they end alike. -/
theorem EndsLike.of_flown (departs : Executor.departureFrom Registry.builtIn a.config a.saved = .ok d)
    (departs' : Executor.departureFrom Registry.builtIn b.config b.saved = .ok d')
    (flown : d.FliesLike a.world d' b.world) : a.EndsLike b := by
  obtain ⟨result, alike, agrees⟩ := flown
  have ended : a.outcome = ((d.fly.run a.world).1.conclude, (d.fly.run a.world).2) :=
    Executor.attempt_departs departs
  have ended' : b.outcome = ((d'.fly.run b.world).1.conclude, (d'.fly.run b.world).2) :=
    Executor.attempt_departs departs'
  refine ⟨fun l => ?_, fun runId execConfig => ?_, fun same saved => ?_⟩
  · rw [ended, ended']
    exact (agrees.node l trivial).symm
  · rw [Scheduled.told, Scheduled.told, ended, ended']
    exact conclude_alike result alike
  · rw [same, saved, departs', Except.ok.injEq] at departs
    subst departs
    rw [Scheduled.told, Scheduled.told, ended, ended']
    have settings : ∀ w, (d'.fly.run w).1.runId = d'.runId ∧ (d'.fly.run w).1.execConfig = d'.execConfig :=
      fun w => by rw [Executor.fly_run]; exact ⟨rfl, rfl⟩
    exact conclude_same result alike ((settings _).1.trans (settings _).1.symm)
      ((settings _).2.trans (settings _).2.symm)

/-- Transfers that do not depart, for the same reason, end alike. -/
theorem EndsLike.of_grounded {e : ExecutionError} (disk : a.world.disk = b.world.disk)
    (departs : Executor.departureFrom Registry.builtIn a.config a.saved = .error e)
    (departs' : Executor.departureFrom Registry.builtIn b.config b.saved = .error e) :
    a.EndsLike b := by
  have ended : a.outcome = (.error e, a.world) := Executor.attempt_grounded departs
  have ended' : b.outcome = (.error e, b.world) := Executor.attempt_grounded departs'
  refine ⟨fun l => ?_, fun runId execConfig => ?_, fun _ _ => ?_⟩
  · rw [ended, ended', disk]
  · rw [Scheduled.told, Scheduled.told, ended, ended']
  · rw [Scheduled.told, Scheduled.told, ended, ended']

end Landings

section Orders

variable {a b : Scheduled} {n : Naming} {o : Order} {launch : Disk} {state : ResumeState}

theorem inputFiles_of_keeps (keeps : Executor.Keeps o state) : state.inputFiles = o.files := by
  rw [ResumeState.inputFiles, keeps.inputTask, Source.task, FileBasedInputTask.ofTask_toTask]
  simp only [bind, Except.bind, LocalInput.Files.ofTask_toTask]
  rfl

/-- The tasks of an order can be launched side by side where their outputs are apart. -/
theorem IsApart.parted (apart : a.IsApart n) (calm : a.IsCalm) (writes : WritesFiles a.config n)
    (ordered : Order.ofConfig a.config o.files = .ok o) (files : a.files = o.files)
    (grows : a.world.disk.GrowsTo launch) (ways : ∀ path ∈ o.files, ∀ m ∈ Disk.gates path,
      a.world.disk.node? m = some .directory ∨ ∀ i < o.files.length, ¬ o.Owns i m) :
    o.IsParted launch n := by
  obtain ⟨outputs, inputs, -⟩ := apart
  rw [files] at outputs inputs
  obtain ⟨_, formatterConfig, options, dialect, -, -, -, destination⟩ :=
    Order.destination_files ordered writes
  refine ⟨fun k m access => ?_, ⟨_, _, _, destination⟩, outputs,
    (Order.isApart_files destination outputs inputs).inputs, fun path hp m hm => ?_⟩
  · rw [grows.refusal]
    exact calm.disk k m access
  · exact (ways path hp m hm).imp_left (grows.directory m)

/-- Both transfers are fresh, or both go on from one state, but for its settings. -/
theorem Reschedules.fresh_or_resumed (same : a.Reschedules b) : (a.saved = none ∧ b.saved = none) ∨
    ∃ state runId execConfig, a.saved = some state ∧ b.saved = some (state.under runId execConfig) := by
  cases fresh : a.saved with
  | none => exact .inl ⟨rfl, by simpa [fresh] using same.saved "" Document.empty⟩
  | some state =>
    cases fresh' : b.saved with
    | none => simpa [fresh, fresh'] using same.saved "" Document.empty
    | some state' =>
      have both := same.saved state'.runId state'.execConfig
      rw [fresh, fresh', Option.map_some, Option.map_some, Option.some.injEq] at both
      exact .inr ⟨state, state'.runId, state'.execConfig, rfl, congrArg some both.symm⟩

/-- Both depart with the same plugins and the same size of pages, or neither does, for one reason. -/
theorem Reschedules.departs (same : a.Reschedules b) :
    (∃ e, Executor.departureFrom Registry.builtIn a.config a.saved = .error e ∧
        Executor.departureFrom Registry.builtIn b.config b.saved = .error e) ∨
      ∃ d d' plugins, Executor.departureFrom Registry.builtIn a.config a.saved = .ok d ∧
        Executor.departureFrom Registry.builtIn b.config b.saved = .ok d' ∧
          TransferPlugins.resolve Registry.builtIn a.config = .ok plugins ∧
            TransferPlugins.resolve Registry.builtIn b.config = .ok plugins ∧
              d.exec.pageSize = d'.exec.pageSize := by
  have plugins := same.config.resolve_eq Registry.builtIn
  have sized := same.pageSize
  rw [Scheduled.pageSize, Scheduled.pageSize] at sized
  rcases same.fresh_or_resumed with ⟨fresh, fresh'⟩ | ⟨state, runId, execConfig, saved, saved'⟩
  · rw [fresh, fresh'] at sized ⊢
    rcases map_cases sized with ⟨e, refused, refused'⟩ | ⟨x, y, accepted, accepted', size⟩
    · refine .inl ⟨.config e, ?_, ?_⟩
      · simp only [Executor.departureFrom, Executor.departure, refused]
      · simp only [Executor.departureFrom, Executor.departure, refused']
    · simp only [Executor.departureFrom, Executor.departure, accepted, accepted', ← plugins]
      cases TransferPlugins.resolve Registry.builtIn a.config with
      | error e => exact .inl ⟨.plugin e, rfl, rfl⟩
      | ok plugins => exact .inr ⟨_, _, plugins, rfl, rfl, rfl, rfl, size⟩
  · rw [saved, saved'] at sized ⊢
    rcases map_cases sized with ⟨e, refused, refused'⟩ | ⟨x, y, accepted, accepted', size⟩
    · refine .inl ⟨.config e, ?_, ?_⟩
      · simp only [Executor.departureFrom, Executor.resumption, refused]
      · simp only [Executor.departureFrom, Executor.resumption, refused']
    · simp only [Executor.departureFrom, Executor.resumption, accepted, accepted', ← plugins]
      cases TransferPlugins.resolve Registry.builtIn a.config with
      | error e => exact .inl ⟨.plugin e, rfl, rfl⟩
      | ok plugins =>
        by_cases mismatch : plugins.filters.length ≠ state.filterTasks.length
        · exact .inl ⟨_, if_pos mismatch, if_pos mismatch⟩
        · exact .inr ⟨_, _, plugins, if_neg mismatch, if_neg mismatch, rfl, rfl, size⟩

/-- Whatever the order in which the tasks take their steps, and however many of them may run at a time:
the transfer leaves the same on the disk, and tells the same of it. -/
theorem outcome_independent_of_schedule (same : a.Reschedules b) (writes : WritesFiles a.config n)
    (whole : a.IsWhole) (proper : a.world.disk.IsProper) (apart : a.IsApart n) (calm : a.IsCalm)
    (calm' : b.IsCalm) : a.EndsLike b := by
  rcases same.departs with
    ⟨e, departs, departs'⟩ | ⟨d, d', plugins, departs, departs', resolved, resolved', sized⟩
  · exact .of_grounded same.disk departs departs'
  have built := TransferPlugins.resolve_builtIn resolved
  refine .of_flown departs departs' ?_
  rcases same.fresh_or_resumed with ⟨fresh, fresh'⟩ | ⟨state, runId, execConfig, saved, saved'⟩
  · rw [fresh] at departs
    rw [fresh'] at departs'
    refine Executor.departure_twins (n := n) departs departs' resolved resolved' built
      (Executor.silent_of_writes writes) sized same.disk.symm calm.tasks calm'.tasks ?_
    intro o finds launch grows
    have found : a.files = o.files := by
      rw [files, fresh]
      exact finds.inputFiles_eq
    exact apart.parted calm writes finds.ordered found grows fun path hp m hm =>
      .inl (LocalInput.list_gates proper finds.listed path hp m hm)
  · rw [saved] at departs
    rw [saved'] at departs'
    obtain ⟨o, ordered, keeps⟩ := whole state saved
    have found : a.files = o.files := by
      rw [files, saved]
      exact inputFiles_of_keeps keeps
    have ways := apart.ways (by rw [saved]; rfl)
    rw [found] at ways
    refine Executor.resumption_twins (n := n) built ordered keeps (fun launch grows => ?_) departs departs' resolved
      resolved' sized same.disk.symm calm.tasks calm'.tasks
    refine apart.parted calm writes ordered found grows fun path hp m hm => ?_
    by_cases directory : a.world.disk.node? m = some .directory
    · exact .inl directory
    · refine .inr fun i hi ⟨v, hv, owned⟩ => directory (ways i hi path hp m hm ?_)
      obtain ⟨_, _, _, _, -, -, -, destination⟩ := Order.destination_files ordered writes
      obtain rfl := Option.some.inj ((Order.delivery_files destination i).symm.trans hv)
      exact owned.symm

end Orders

section Examples

variable {ending : String} {readable : Bool} {threads threads' : Nat} {schedule schedule' : List Choice}

/-- Two files are copied, so many at a time. -/
def copies (ending : String) (readable : Bool) (threads : Nat) (schedule : List Choice) : Scheduled where
  config := (copying ending).setNested "exec" ⟨[("max_threads", .ofNat threads)]⟩
  saved := none
  world := { World.ofDisk (twoFiles readable) with schedule }

/-- Both tasks are launched before either takes a step, and then take their steps in turn. -/
def inTurn : List Choice := [.launch, .launch] ++ (List.replicate 40 [.step 1, .step 0]).flatten

/-- The second task comes to its end before the first one takes a step. -/
def secondFirst : List Choice := [.launch, .launch] ++ List.replicate 40 (.step 1)

theorem inTurn_plain : ∀ choice ∈ inTurn, choice.IsPlain := by
  simp [inTurn, Choice.IsPlain]

theorem secondFirst_plain : ∀ choice ∈ secondFirst, choice.IsPlain := by
  simp [secondFirst, Choice.IsPlain]

theorem calm_of_plain {s : Scheduled} {d : Disk} (plain : ∀ choice ∈ schedule, choice.IsPlain)
    (world : s.world = { World.ofDisk d with schedule }) (allows : d.refusal = fun _ _ => none) :
    s.IsCalm := by
  obtain ⟨config, saved, world⟩ := s
  cases world
  refine ⟨⟨fun choice hm crash => ?_, ?_⟩, fun m k access => ?_⟩
  · have plain := plain choice hm
    cases choice <;> simp_all [Choice.IsPlain, Choice.IsCrash]
  · rintro (cancelled | stop)
    · cases cancelled
    · exact plain _ stop
  · change d.refusal m access = d.refusal k access
    rw [allows]

theorem copies_files : (copies ending readable threads schedule).files = ["in/1", "in/2"] := by
  change (LocalInput.list ⟨"in/", none⟩ (twoFiles readable)).1.toOption.getD [] = _
  rw [twoFiles_listed]
  rfl

theorem copies_whole : (copies ending readable threads schedule).IsWhole := fun _ saved => nomatch saved

theorem copies_proper : (copies ending readable threads schedule).world.disk.IsProper := by
  change (twoFiles readable).IsProper
  cases readable <;> decide +kernel

theorem copies_reschedule (sized : (copies ending readable threads schedule).pageSize =
    (copies ending readable threads' schedule').pageSize) :
    (copies ending readable threads schedule).Reschedules (copies ending readable threads' schedule') where
  config := fun key differ => (Document.agreesBut_set (copying ending) "exec" _ key differ).symm.trans
    (Document.agreesBut_set (copying ending) "exec" _ key differ)
  saved := fun _ _ => rfl
  pageSize := sized
  disk := rfl

/-- What is known of two copies, read off what their flight leaves. -/
theorem copies_leave (ending : String) (readable : Bool) (threads : Nat) (schedule : List Choice)
    (check : Landing → World → Bool) (h : leaves (copies ending readable threads schedule).config
      ⟨"in/", none⟩ ["in/1", "in/2"] { World.ofDisk (twoFiles readable).counted with schedule } check = true) :
    ∃ l w, (copies ending readable threads schedule).outcome = (l.conclude, w) ∧ check l w = true := by
  obtain ⟨d, departs, checked⟩ := leaves_ends
    (w := (copies ending readable threads schedule).world) (twoFiles_listed readable) h
  exact ⟨_, _, Executor.attempt_departs (show Executor.departureFrom _ _ none = .ok d from departs), checked⟩

/-- A file that cannot be read does not keep the other one from being copied, in whatever turns. -/
theorem copies_end_alike_in_turn :
    (copies "csv" false 2 inTurn).EndsLike (copies "csv" false 1 []) ∧
      (copies "csv" false 2 inTurn).outcome.2.disk.node? ["o001.00.csv"] =
        some (.file (Utf8.encode "a\r\n2\r\n")) := by
  have alike := outcome_independent_of_schedule (a := copies "csv" false 2 inTurn)
    (b := copies "csv" false 1 []) (n := ⟨"o", "csv"⟩) (copies_reschedule rfl) ⟨_, rfl, rfl, rfl⟩ copies_whole
    copies_proper ⟨LocalOutput.Naming.apart_of_ending (by decide) _, by rw [copies_files]; decide +kernel,
      fun saved => nomatch saved⟩ (calm_of_plain inTurn_plain rfl rfl) (calm_of_plain (by simp) rfl rfl)
  refine ⟨alike, (alike.places _).trans ?_⟩
  obtain ⟨l, w, ended, checked⟩ := copies_leave "csv" false 1 []
    (fun _ w => w.disk.node? ["o001.00.csv"] == some (.file (Utf8.encode "a\r\n2\r\n")))
    (by decide +kernel)
  rw [ended]
  exact beq_iff_eq.mp checked

/-- One transfer under two schedules, which writes to none of its inputs. -/
structure Compares (a b : Scheduled) (n : Naming) : Prop where
  same : a.Reschedules b
  writes : WritesFiles a.config n
  whole : a.IsWhole
  proper : a.world.disk.IsProper
  inputs : ∀ i < a.files.length, ∀ path ∈ a.files, Path.place path ≠ Path.place (n.path i 0) ∧
    Path.place path ≠ Path.place (tempPath (n.path i 0))
  calm : a.IsCalm ∧ b.IsCalm

theorem copies_compare (sized : (copies ending readable threads schedule).pageSize =
      (copies ending readable threads' schedule').pageSize)
    (inputs : ∀ i < 2, ∀ path ∈ ["in/1", "in/2"], Path.place path ≠ Path.place ((Naming.mk "o" ending).path i 0) ∧
      Path.place path ≠ Path.place (tempPath ((Naming.mk "o" ending).path i 0)))
    (plain : ∀ choice ∈ schedule, choice.IsPlain) (plain' : ∀ choice ∈ schedule', choice.IsPlain) :
    Compares (copies ending readable threads schedule) (copies ending readable threads' schedule')
      ⟨"o", ending⟩ where
  same := copies_reschedule sized
  writes := ⟨_, rfl, rfl, rfl⟩
  whole := copies_whole
  proper := copies_proper
  inputs := by
    rw [copies_files]
    exact inputs
  calm := ⟨calm_of_plain plain rfl rfl, calm_of_plain plain' rfl rfl⟩

/-- An attempt that has failed in part with a state and a cause like this. -/
def failsWith (check : ResumeState → TaskError → Bool) (l : Landing) (_ : World) : Bool :=
  match l.result with
  | .ok _ => false
  | .error e => l.resumeState?.any fun state => check state (Executor.blame l.flight.progress.taskErrors e).1

theorem told_of_fails {s : Scheduled} {check : ResumeState → TaskError → Bool}
    (h : ∃ l w, s.outcome = (l.conclude, w) ∧ failsWith check l w = true) :
    ∃ state cause suppressed, s.told = .error (.partiallyFailed state cause suppressed) ∧
      check state cause = true := by
  obtain ⟨l, w, ended, checked⟩ := h
  unfold failsWith at checked
  split at checked
  · cases checked
  · rename_i e result
    rw [Option.any_eq_true] at checked
    obtain ⟨state, left, checked⟩ := checked
    refine ⟨state, _, (Executor.blame l.flight.progress.taskErrors e).2, ?_, checked⟩
    rw [told, ended, Landing.conclude, result]
    dsimp only
    rw [left]
    rfl

/-- How many tasks the settings of a state allow at a time. -/
def allows (threads : Nat) (state : ResumeState) (_ : TaskError) : Bool :=
  (state.execConfig.load ExecConfig.shape).toOption.map ExecConfig.maxThreads == some (some threads)

/-- One file is in the directory `in`; the other one was in a directory that is gone. -/
def scattered : List String := ["in/1", "o000.00.csv/2"]

def scatteredConfig : Config :=
  ⟨[("in", .obj [("type", .str "file"), ("path_prefix", .str ""),
      ("parser", .obj [("type", .str "ltsv"),
        ("columns", .arr [.obj [("name", .str "a"), ("type", .str "string")]])])]),
    ("out", .obj [("type", .str "file"), ("path_prefix", .str "o"), ("file_ext", .str "csv"),
      ("formatter", .obj [("type", .str "csv")])])]⟩

/-- The state of an order of which no task has committed. -/
def stateOf (o : Order) : ResumeState where
  runId := ""
  execConfig := ⟨[("max_threads", .ofNat 2)]⟩
  inputTask := o.source.task o.files
  inputSchema := o.source.schema
  outputTask := o.destination.task
  outputSchema := o.schema
  filterTasks := []
  filterSchemas := []
  taskCount := o.files.length
  tasks := []

def oneGone : Disk :=
  ⟨[(["in"], .directory), (["in", "1"], .file (firstFile true))], 0, fun _ _ => none⟩

def goesOn (schedule : List Choice) : Scheduled where
  config := scatteredConfig
  saved := (Order.ofConfig scatteredConfig scattered).toOption.map stateOf
  world := { World.ofDisk oneGone with schedule }

def faultOf (fault : IoError) (_ : ResumeState) (cause : TaskError) : Bool :=
  match cause.error with
  | .file _ found => found == fault
  | _ => false

theorem goesOn_fails (schedule : List Choice) (check : ResumeState → TaskError → Bool)
    (h : ((Executor.departureFrom Registry.builtIn (goesOn schedule).config (goesOn schedule).saved).toOption.any
      fun d => failsWith check (d.fly.run (goesOn schedule).world).1 (d.fly.run (goesOn schedule).world).2) =
        true) : ∃ state cause suppressed,
          (goesOn schedule).told = .error (.partiallyFailed state cause suppressed) ∧
            check state cause = true := by
  cases departs : Executor.departureFrom Registry.builtIn (goesOn schedule).config (goesOn schedule).saved with
  | error e => simp [departs, Except.toOption] at h
  | ok d =>
    rw [departs] at h
    exact told_of_fails ⟨_, _, Executor.attempt_departs departs, h⟩

theorem goesOn_compares (plain : ∀ choice ∈ schedule, choice.IsPlain)
    (plain' : ∀ choice ∈ schedule', choice.IsPlain) :
    Compares (goesOn schedule) (goesOn schedule') ⟨"o", "csv"⟩ where
  same := ⟨fun _ _ => rfl, fun _ _ => rfl, rfl, rfl⟩
  writes := ⟨_, rfl, rfl, rfl⟩
  whole := by
    intro state saved
    have saved : (Order.ofConfig scatteredConfig scattered).toOption.map stateOf = some state := saved
    obtain ⟨o, found, rfl⟩ := Option.map_eq_some_iff.mp saved
    cases ordered : Order.ofConfig scatteredConfig scattered with
    | error e =>
      rw [ordered] at found
      cases found
    | ok o' =>
      rw [ordered] at found
      obtain rfl := Option.some.inj found
      exact ⟨o', (Order.ofConfig_ok ordered).1.symm ▸ ordered, rfl, rfl, rfl, rfl, rfl⟩
  proper := by
    change oneGone.IsProper
    decide +kernel
  inputs := by
    have files : (goesOn schedule).files = scattered := by
      change (goesOn []).files = scattered
      decide +kernel
    rw [files]
    decide +kernel
  calm := ⟨calm_of_plain plain rfl rfl, calm_of_plain plain' rfl rfl⟩

/-- Outputs in one place hold what the task has written that came last; the state to resume from says how
many tasks were to run at a time; and an input whose directory is gone fails in another way once an output
is in the place of the directory. -/
theorem shared_places_and_settings_differ :
    (Compares (copies "d/../x" true 2 []) (copies "d/../x" true 2 secondFirst) ⟨"o", "d/../x"⟩ ∧
        (copies "d/../x" true 2 []).config = (copies "d/../x" true 2 secondFirst).config ∧
          (copies "d/../x" true 2 []).outcome.2.disk.fileAt? "o000.00.d/../x" ≠
            (copies "d/../x" true 2 secondFirst).outcome.2.disk.fileAt? "o000.00.d/../x") ∧
      (Compares (copies "csv" false 1 []) (copies "csv" false 2 []) ⟨"o", "csv"⟩ ∧
        (copies "csv" false 1 []).told ≠ (copies "csv" false 2 []).told) ∧
          Compares (goesOn []) (goesOn secondFirst) ⟨"o", "csv"⟩ ∧
            (goesOn []).config = (goesOn secondFirst).config ∧
              (goesOn []).told ≠ (goesOn secondFirst).told := by
  refine ⟨⟨copies_compare rfl (by decide +kernel) (by simp) secondFirst_plain, rfl, fun same => ?_⟩,
    ⟨copies_compare rfl (by decide +kernel) (by simp) (by simp), fun same => ?_⟩,
    goesOn_compares (by simp) secondFirst_plain, rfl, fun same => ?_⟩
  · obtain ⟨l, w, ended, last⟩ := copies_leave "d/../x" true 2 []
      (fun _ w => w.disk.fileAt? "o000.00.d/../x" == some (Utf8.encode "a\r\n2\r\n")) (by decide +kernel)
    obtain ⟨l', w', ended', last'⟩ := copies_leave "d/../x" true 2 secondFirst
      (fun _ w => w.disk.fileAt? "o000.00.d/../x" == some (Utf8.encode "a\r\n1\r\n")) (by decide +kernel)
    rw [ended, ended', beq_iff_eq.mp last, beq_iff_eq.mp last'] at same
    exact absurd same (by decide +kernel)
  · obtain ⟨state, cause, suppressed, told, allowed⟩ :=
      told_of_fails (copies_leave "csv" false 1 [] (failsWith (allows 1)) (by decide +kernel))
    obtain ⟨state', cause', suppressed', told', allowed'⟩ :=
      told_of_fails (copies_leave "csv" false 2 [] (failsWith (allows 2)) (by decide +kernel))
    rw [told, told'] at same
    cases same
    cases (beq_iff_eq.mp allowed).symm.trans (beq_iff_eq.mp allowed')
  · obtain ⟨state, cause, suppressed, told, fault⟩ :=
      goesOn_fails [] (faultOf .notADirectory) (by decide +kernel)
    obtain ⟨state', cause', suppressed', told', fault'⟩ :=
      goesOn_fails secondFirst (faultOf .notFound) (by decide +kernel)
    rw [told, told'] at same
    cases same
    unfold faultOf at fault fault'
    split at fault
    · simp_all
    · cases fault

end Examples

end Scheduled

end BulkTransfer
