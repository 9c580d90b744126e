import BulkTransfer.Proofs.Local.Naming
import BulkTransfer.Proofs.Local.Output
import BulkTransfer.Proofs.Plugin.Sink
import BulkTransfer.Proofs.Transfer.BuiltIn
import BulkTransfer.Proofs.Transfer.Charter
import BulkTransfer.Proofs.Transfer.Task
/-!
# The tasks of an order

Each task of an order reads its file and either commits what the file says, to a file of its own or
as a number of records, or has no output. An order is a charter; how much it says depends on whether
the files of its tasks are in places of their own, and on what is known of the world.
-/
namespace BulkTransfer

open LocalOutput (Delivery)

namespace Rename

theorem through_sameTypes {configs : List Config} {s t : Schema}
    (h : through configs s = .ok t) : s.SameTypes t := by
  induction configs generalizing s with
  | nil =>
    cases h
    exact .refl _
  | cons config rest ih =>
    obtain ⟨middle, first, h⟩ := Attempt.of_bind h
    obtain ⟨options, -, first⟩ := Attempt.of_bind first
    exact (Schema.rename_sameTypes (Attempt.of_mapError first)).trans (ih h)

theorem openFilters_transparent {filters : List FilterTask}
    (h : ∀ f ∈ filters, f.plugin = filter) :
    ∃ stage, TaskPlan.openFilters filters = .ok stage ∧ stage.IsTransparent := by
  induction filters with
  | nil => exact ⟨.passing, rfl, FilterStage.passing_transparent⟩
  | cons f rest ih =>
    obtain ⟨inner, opened, transparent⟩ := ih fun g hg => h g (List.mem_cons_of_mem _ hg)
    refine ⟨FilterStage.passing.followedBy inner, ?_,
      FilterStage.passing_transparent.followedBy transparent⟩
    rw [TaskPlan.openFilters, opened, h f List.mem_cons_self]
    rfl

end Rename

/-- The output of a config writes files with these names. -/
def WritesFiles (config : Config) (n : LocalOutput.Naming) : Prop :=
  ∃ output, TransferPlugins.section? config "out" = .ok output ∧
    output.require "type" .string = .ok "file" ∧
      output.load LocalOutput.Naming.shape = .ok n

/-- What is known before the tasks of an order are run. -/
structure Terms where
  /-- The outputs of the tasks are in places of their own. -/
  alone : Prop
  /-- There are no files in these places, the disk refuses neither to write nor to remove, and no task
  dies. -/
  tidy : Prop
  /-- No task dies or is cancelled. -/
  steady : Prop
  pageSize : Nat
  held : tidy → alone

namespace Order

variable (o : Order) (terms : Terms) (i : Nat)

/-- What a task writes, unless its records are only counted. -/
def delivery? : Option Delivery :=
  match o.destination with
  | .files naming _ options dialect => some ⟨naming, i, options, dialect, o.schema⟩
  | .nothing => none

def Owns (l : Location) : Prop := ∃ v, o.delivery? i = some v ∧ v.Owns l

/-- A task may change the places of its output, which are its own where it is alone. It reads its file,
unless some task writes there. -/
def region : Region where
  own := fun l => terms.alone ∧ o.Owns i l
  reach := o.Owns i
  read := fun l => (∃ path, o.files[i]? = some path ∧ l = Path.place path) ∧
    ∀ j < o.files.length, ¬ o.Owns j l
  apart := fun _ own ⟨⟨_, given, _⟩, foreign⟩ =>
    foreign i (List.getElem?_eq_some_iff.mp given).1 own
  pageSize := terms.pageSize

/-- What the output of a task keeps of its rows, and what it says of them. -/
def Keeps (rows : List (List Cell)) (report : Report) (d : Disk) : Prop :=
  (∀ v, o.delivery? i = some v → report = v.report ∧ (terms.alone → v.Holds rows d)) ∧
    (o.delivery? i = none → report = Counting.report rows.length)

def IsClear (d : Disk) : Prop := ∀ v, o.delivery? i = some v → v.IsClear d

/-- A task that reads a file of its own cannot commit: something on the disk is in its way, the file
cannot be read or does not say rows, or the rows have no text or no room in pages. -/
def Hindered (d : Disk) : Prop :=
  ∀ path content rows, o.files[i]? = some path → (∀ j < o.files.length, ¬ o.Owns j (Path.place path)) →
    (∀ n a, d.refusal n a = none) → (∀ v, o.delivery? i = some v → v.IsFree d) →
      d.fileAt? path = some content →
        Ltsv.fileRows o.source.options o.source.schema content = .ok rows →
          (∃ v, o.delivery? i = some v ∧ v.Refuses rows) ∨
            ¬ o.source.schema.HasRoom terms.pageSize rows

/-- A task has committed what its file says, or it has no output; it leaves nothing then if it is tidy,
and there is a reason if it was steady. -/
def Settles (outcome : TaskOutcome) (d : Disk) : Prop :=
  (∃ path rows report, o.files[i]? = some path ∧ outcome = TaskPlan.committed i report ∧
      o.Keeps terms i rows report d ∧
        Ltsv.Told (o.region terms i) o.source.options o.source.schema path rows d) ∨
    outcome.index = i ∧ outcome.outputReport = none ∧ (terms.tidy → o.IsClear i d) ∧
      (terms.steady → terms.alone → o.Hindered terms i d)

structure IsSpread (o : Order) : Prop where
  outputs : ∀ i < o.files.length, ∀ j < o.files.length, i ≠ j → ∀ l, o.Owns i l → ¬ o.Owns j l
  crossed : ∀ i < o.files.length, ∀ v, o.delivery? i = some v →
    Path.place v.temp ≠ Path.place v.path

/-- The outputs of the tasks are in places of their own, none of which is that of an input. -/
structure IsApart (o : Order) : Prop where
  outputs : ∀ i < o.files.length, ∀ j < o.files.length, i ≠ j → ∀ l, o.Owns i l → ¬ o.Owns j l
  crossed : ∀ i < o.files.length, ∀ v, o.delivery? i = some v →
    Path.place v.temp ≠ Path.place v.path
  inputs : ∀ i < o.files.length, ∀ path ∈ o.files, ¬ o.Owns i (Path.place path)

theorem IsApart.spread {o : Order} (h : o.IsApart) : o.IsSpread := ⟨h.outputs, h.crossed⟩

section Files

variable {o : Order} {n : LocalOutput.Naming} {formatterConfig : Config} {options : Csv.Options}
  {dialect : Csv.Dialect}

theorem delivery_files (files : o.destination = .files n formatterConfig options dialect) (i : Nat) :
    o.delivery? i = some ⟨n, i, options, dialect, o.schema⟩ := by
  rw [delivery?, files]

/-- Outputs have places of their own when the names of their paths say so. -/
theorem isSpread_files (files : o.destination = .files n formatterConfig options dialect)
    (apart : n.Apart o.files.length) : o.IsSpread := by
  have delivers := delivery_files files
  constructor
  · rintro i hi j hj other l ⟨v, hv, hl⟩ ⟨u, hu, hl'⟩
    obtain rfl := Option.some.inj (hv.symm.trans (delivers i))
    obtain rfl := Option.some.inj (hu.symm.trans (delivers j))
    rcases hl with rfl | rfl
    · rcases hl' with same | same
      · exact other (apart.temps i hi j hj same)
      · exact apart.crossed j hj i hi same.symm
    · rcases hl' with same | same
      · exact apart.crossed i hi j hj same
      · exact other (apart.finals i hi j hj same)
  · intro i hi v hv
    obtain rfl := Option.some.inj (hv.symm.trans (delivers i))
    exact (apart.crossed i hi i hi).symm

theorem isApart_files (files : o.destination = .files n formatterConfig options dialect)
    (apart : n.Apart o.files.length)
    (inputs : ∀ i < o.files.length, ∀ path ∈ o.files, Path.place path ≠ Path.place (n.path i 0) ∧
      Path.place path ≠ Path.place (LocalOutput.tempPath (n.path i 0))) : o.IsApart := by
  obtain ⟨outputs, crossed⟩ := isSpread_files files apart
  refine ⟨outputs, crossed, ?_⟩
  rintro i hi path hm ⟨v, hv, hl⟩
  obtain rfl := Option.some.inj (hv.symm.trans (delivery_files files i))
  rcases hl with same | same
  · exact (inputs i hi path hm).2 same
  · exact (inputs i hi path hm).1 same

end Files

theorem destination_files {o : Order} {n : LocalOutput.Naming} {config : Config}
    (ordered : ofConfig config o.files = .ok o) (writes : WritesFiles config n) :
    ∃ output formatterConfig options dialect, TransferPlugins.section? config "out" = .ok output ∧
      TransferPlugins.section? output "formatter" = .ok formatterConfig ∧
        Csv.settings formatterConfig o.schema = .ok (options, dialect) ∧
          o.destination = .files n formatterConfig options dialect := by
  obtain ⟨output, wanted, type, loaded⟩ := writes
  obtain ⟨-, _, output', _, -, wanted', -, -, -, written⟩ := ofConfig_ok ordered
  obtain rfl : output = output' := Except.ok.inj (wanted.symm.trans wanted')
  rcases Destination.ofConfig_ok written with
    ⟨-, naming, formatterConfig, options, dialect, files, loaded', named, made⟩ | ⟨type', -⟩
  · obtain rfl : n = naming := Except.ok.inj (loaded.symm.trans loaded')
    exact ⟨output, formatterConfig, options, dialect, wanted, named, made, files⟩
  · simp [type] at type'

/-- The tasks of the order can be run in this world on these terms. -/
structure Fits (terms : Terms) (w : World) : Prop where
  spread : terms.alone → o.IsSpread
  clear : terms.tidy → ∀ i < o.files.length, ∀ v, o.delivery? i = some v →
    Delivery.Allows w.disk ∧ v.IsClear w.disk
  calm : terms.tidy ∨ terms.steady → ∀ choice ∈ w.schedule, ¬ choice.IsCrash
  steady : terms.steady → ¬ w.MayStop

section Tasks

variable {o : Order} {terms : Terms} {i : Nat} {path : String} {config : Config} {d d' : Disk}

theorem Owns.delivered {v : Delivery} (hv : o.delivery? i = some v) {l : Location} :
    o.Owns i l ↔ v.Owns l :=
  ⟨fun ⟨_, hu, hl⟩ => Option.some.inj (hv.symm.trans hu) ▸ hl, fun hl => ⟨v, hv, hl⟩⟩

theorem Hindered.agrees (h : o.Hindered terms i d)
    (agrees : d.AgreesOn (o.region terms i).read d') : o.Hindered terms i d' := by
  intro path content rows given foreign allows free held told
  have same : d'.fileAt? path = d.fileAt? path := agrees.fileAt? ⟨⟨path, given, rfl⟩, foreign⟩
  exact h path content rows given foreign (fun n a => agrees.refusal ▸ allows n a)
    (fun v hv => (free v hv).agrees agrees.symm) (same ▸ held) told

theorem settles_stable (o : Order) (terms : Terms) (i : Nat) (outcome : TaskOutcome) :
    (o.region terms i).Stable (o.Settles terms i outcome) := by
  have owned : ∀ v, o.delivery? i = some v → terms.alone → ∀ l, v.Owns l → (o.region terms i).own l :=
    fun v hv ha l hl => ⟨ha, v, hv, hl⟩
  rintro d d' spared (⟨path, rows, report, given, same, ⟨kept, counted⟩, told⟩ |
    ⟨same, none, clear, hindered⟩)
  · refine .inl ⟨path, rows, report, given, same, ⟨fun v hv => ?_, counted⟩,
      spared.fixed (Ltsv.told_fixed path rows) told⟩
    obtain ⟨said, holds⟩ := kept v hv
    exact ⟨said, Delivery.Holds.stable (owned v hv) d d' spared holds⟩
  · refine .inr ⟨same, none, fun ht v hv => ?_, fun hs ha => ?_⟩
    · obtain ⟨temp, final⟩ := clear ht v hv
      have places := owned v hv (terms.held ht)
      exact ⟨spared.vacant (.inl (places _ (.inl rfl))) temp,
        spared.vacant (.inl (places _ (.inr rfl))) final⟩
    · exact (hindered hs ha).agrees (spared.mono fun _ hl => .inr hl)

theorem run_eq (cut : LocalInput.Cutting) (given : o.files[i]? = some path) :
    (FileBasedInput.cutting cut).run (o.source.task o.files) o.source.schema i =
      Ltsv.feed o.source.options o.source.schema cut path := by
  have opened : (FileBasedInput.cutting cut).openInput
      ⟨[], o.source.parserConfig, (o.source.listing o.files).toTask, [], o.source.options.toTask⟩ i =
        .ok ⟨[cut.openFile path], .done (.ok Document.empty), .done (), .done ()⟩ := by
    have files : (o.source.listing o.files).files[i]? = some path := given
    simp only [FileBasedInput.openInput, FileBasedInput.cutting, LocalInput.Cutting.plugin,
      LocalInput.Cutting.openTask, LocalInput.Files.ofTask_toTask, bind, Except.bind, files]
    rfl
  rw [Source.task, FileBasedInput.run, FileBasedInputTask.ofTask_toTask]
  dsimp only
  rw [opened]
  have parsed : (FileBasedInput.cutting cut).parser.run o.source.options.toTask o.source.schema
      ⟨[cut.openFile path], .done (.ok Document.empty), .done (), .done ()⟩ =
        Building.build o.source.schema true
          (Ltsv.readFiles o.source.options o.source.schema [cut.openFile path]) := by
    simp only [FileBasedInput.cutting, Ltsv.parser, Ltsv.run, Ltsv.Options.loadTask_toTask]
    rfl
  dsimp only
  rw [parsed, Ltsv.feed]
  refine congrArg (Program.andThen _) (funext fun answer => ?_)
  cases answer <;> rfl

theorem openTask_files {formatterConfig : Config} {options : Csv.Options} {dialect : Csv.Dialect}
    {s : Schema} (made : Csv.settings formatterConfig s = .ok (options, dialect))
    (naming : LocalOutput.Naming) (i : Nat) :
    FileBasedOutput.builtIn.openTask (Destination.files naming formatterConfig options dialect).task
      s i = .ok ⟨LocalOutput.Writing, (Delivery.mk naming i options dialect s).sink, .blank⟩ := by
  obtain ⟨single, sorted⟩ := Csv.settings_ok made
  have formatted : Csv.sinkOf options.toTask s (LocalOutput.sink naming i) =
      .ok (Delivery.mk naming i options dialect s).sink := by
    simp only [Csv.sinkOf, Csv.Options.loadTask_toTask sorted, Attempt.ofConfig, single,
      Except.mapError, bind, Except.bind]
    rfl
  have written : Csv.openTask options.toTask s
      ⟨LocalOutput.Writing, LocalOutput.sink naming i, .blank⟩ =
        .ok ⟨LocalOutput.Writing, (Delivery.mk naming i options dialect s).sink, .blank⟩ := by
    simp only [Csv.openTask, formatted]
  rw [Destination.task, FileBasedOutput.openTask, FileBasedOutputTask.ofTask_toTask]
  exact written

/-- A task settles as its order says when its sink keeps what the order keeps, is able where the output
is free, and refuses no more. -/
theorem settles_of {σ : Type} {sink : PageSink σ}
    {k : SinkContract (o.region terms i) o.source.schema sink} (given : o.files[i]? = some path)
    (keeps : ∀ rows report d, k.committed rows report d → o.Keeps terms i rows report d)
    (clear : ∀ d, k.gone d → terms.tidy → o.IsClear i d)
    (able : ∀ d, terms.alone → (∀ v, o.delivery? i = some v → v.IsFree d) → k.able d)
    (refuses : ∀ rows, k.refuses rows → ∃ v, o.delivery? i = some v ∧ v.Refuses rows)
    (outcome : TaskOutcome) (d : Disk) (h : TaskPlan.Settles k o.source.options path i outcome d) :
    o.Settles terms i outcome d := by
  rcases h with ⟨rows, report, same, kept, told⟩ | ⟨same, none, gone, blocked⟩
  · exact .inl ⟨path, rows, report, given, same, keeps rows report d kept, told⟩
  · refine .inr ⟨same, none, clear d gone, fun _ alone => ?_⟩
    intro path' content rows given' foreign allows free held told
    obtain rfl : path = path' := Option.some.inj (given.symm.trans given')
    have troubled := blocked ⟨⟨path, given, rfl⟩, foreign⟩ (fun n => allows n _) content rows held told
    exact (troubled (able d alone free)).imp_left (refuses rows)

section Built

variable {plugins : TransferPlugins} (b : plugins.IsBuiltIn config)

include b

theorem filters_transparent {filters : List FilterTask}
    (known : ∀ f ∈ filters, ∃ choice ∈ plugins.filters, f.plugin = choice.plugin) :
    ∃ stage, TaskPlan.openFilters filters = .ok stage ∧ stage.IsTransparent := by
  refine Rename.openFilters_transparent fun f hf => ?_
  obtain ⟨choice, hc, same⟩ := known f hf
  rw [same, b.filters choice hc]

theorem input_feeds (given : o.files[i]? = some path) :
    ∃ cut, plugins.input.run (o.source.task o.files) o.source.schema i =
      Ltsv.feed o.source.options o.source.schema cut path := by
  obtain ⟨cut, input⟩ := b.input
  refine ⟨cut, ?_⟩
  rw [input]
  exact run_eq cut given

theorem output_opens (ordered : ofConfig config o.files = .ok o) {v : Delivery}
    (hv : o.delivery? i = some v) : plugins.output.openTask o.destination.task o.schema i =
      .ok ⟨LocalOutput.Writing, v.sink, .blank⟩ := by
  obtain ⟨-, -, outputConfig, -, -, wanted, -, -, -, written⟩ := ofConfig_ok ordered
  obtain rfl : plugins.outputConfig = outputConfig :=
    Except.ok.inj (b.outputConfig.symm.trans wanted)
  rcases Destination.ofConfig_ok written with
    ⟨type, naming, formatterConfig, options, dialect, files, -, -, made⟩ | ⟨-, nothing⟩
  · obtain rfl := Option.some.inj ((delivery_files files i).symm.trans hv)
    rw [(b.output_files type).1, files]
    exact openTask_files made naming i
  · simp [delivery?, nothing] at hv

/-- Whatever the others do meanwhile, a task settles. -/
theorem perform_settles (ordered : ofConfig config o.files = .ok o) (spread : terms.alone → o.IsSpread)
    {filters : List FilterTask}
    (known : ∀ f ∈ filters, ∃ choice ∈ plugins.filters, f.plugin = choice.plugin)
    (inside : i < o.files.length)
    (before : terms.tidy → ∀ v, o.delivery? i = some v → Delivery.Allows d ∧ v.IsClear d) :
    (TaskPlan.perform ⟨plugins.input, o.source.task o.files, o.source.schema, filters,
      plugins.output, o.destination.task, o.schema⟩ i).Ensures (o.region terms i)
        (o.Settles terms i) d := by
  obtain ⟨-, inputConfig, outputConfig, configs, -, wanted, -, -, passed, written⟩ :=
    ofConfig_ok ordered
  obtain rfl : plugins.outputConfig = outputConfig :=
    Except.ok.inj (b.outputConfig.symm.trans wanted)
  obtain ⟨stage, opened, transparent⟩ := filters_transparent b known
  have given : o.files[i]? = some o.files[i] := List.getElem?_eq_getElem inside
  obtain ⟨cut, fed⟩ := input_feeds b given
  rcases Destination.ofConfig_ok written with
    ⟨-, naming, formatterConfig, options, dialect, files, -⟩ | ⟨type, nothing⟩
  · have delivers := delivery_files files i
    have only : ∀ v, o.delivery? i = some v → v = ⟨naming, i, options, dialect, o.schema⟩ :=
      fun v hv => Option.some.inj (hv.symm.trans delivers)
    refine (TaskPlan.perform_ensures (r := o.region terms i) (k := Delivery.contract _ terms.tidy
      terms.alone (Rename.through_sameTypes passed)
      (fun ha l hl => ⟨ha, (Owns.delivered delivers).mpr hl⟩)
      (fun l hl => (Owns.delivered delivers).mpr hl)
      (fun ha => (spread ha).crossed i inside _ delivers) terms.held)
      opened transparent fed (output_opens b ordered delivers) fun ht => before ht _ delivers).mono ?_
    refine settles_of given (fun rows report d kept => ⟨fun v hv => only v hv ▸ kept, fun none => ?_⟩)
      (fun d gone ht v hv => only v hv ▸ gone ht) (fun d alone free => ⟨alone, free _ delivers⟩)
      fun rows refused => ⟨_, delivers, refused⟩
    cases delivers.symm.trans none
  · have delivers : o.delivery? i = none := by rw [delivery?, nothing]
    have opens : plugins.output.openTask o.destination.task o.schema i =
        .ok ⟨Nat, Counting.nullSink, 0⟩ := by
      rw [b.output_null type]
      rfl
    refine (TaskPlan.perform_ensures (r := o.region terms i)
      (k := Counting.nullContract o.source.schema) opened transparent fed opens trivial).mono ?_
    have no : ∀ v, o.delivery? i ≠ some v := by simp [delivers]
    exact settles_of given (fun rows report d kept => ⟨fun v hv => absurd hv (no v), fun _ => kept⟩)
      (fun d _ _ v hv => absurd hv (no v)) (fun d _ _ => trivial) fun rows refused => refused.elim

end Built

/-- An order is a charter on any terms, if its outputs have places of their own where it says so. -/
def charter (o : Order) {config : Config} {plugins : TransferPlugins} (b : plugins.IsBuiltIn config)
    (ordered : ofConfig config o.files = .ok o) (terms : Terms) (spread : terms.alone → o.IsSpread) :
    Charter plugins where
  inputTask := o.source.task o.files
  inputSchema := o.source.schema
  outputTask := o.destination.task
  outputSchema := o.schema
  count := o.files.length
  outputDiff := o.destination.diff
  region := o.region terms
  pre := fun i d => terms.tidy → ∀ v, o.delivery? i = some v → Delivery.Allows d ∧ v.IsClear d
  post := fun i => o.Settles terms i
  apart := by
    intro i hi j hj other l reach
    exact ⟨fun own => (spread own.1).outputs i hi j hj other l reach own.2,
      fun read => read.2 i hi reach⟩
  pre_stable := by
    intro i d d' spared h ht v hv
    have owned : terms.alone → ∀ l, v.Owns l → (o.region terms i).own l :=
      fun ha l hl => ⟨ha, v, hv, hl⟩
    exact Delivery.IsClear.stable owned terms.held d d' spared (fun ht => h ht v hv) ht
  post_stable := o.settles_stable terms
  perform := fun _ known _ inside _ before => perform_settles b ordered spread known inside before

end Tasks

end Order

end BulkTransfer
