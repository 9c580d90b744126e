import BulkTransfer.Proofs.Local.Output
import BulkTransfer.Proofs.Local.OutputPaths
import BulkTransfer.Proofs.Transfer.OrderFlight
import BulkTransfer.Transfer.Runner
/-!
# Whole or nothing

Without a store, a transfer from files to files either leaves the file of every task or none of them:
what the tasks have committed before one of them failed is cleaned up at once.
-/
namespace BulkTransfer
namespace Executor

variable {registry : Registry} {config : Config} {d : Departure} {w : World}

theorem run_departs (h : departure registry config = .ok d) :
    (run registry config).run w = ((d.fly.run w).1.conclude, (d.fly.run w).2) := by
  rw [run, h]
  exact Program.run_andThen d.fly (fun l => .done l.conclude) w

theorem departure_error {e : ExecutionError} (h : departure registry config = .error e)
    (state : ResumeState) (cause : TaskError) (suppressed : List ExecutionError) :
    e ≠ .partiallyFailed state cause suppressed := by
  unfold departure at h
  split at h
  · cases h
    simp
  · split at h
    · cases h
      simp
    · cases h

end Executor

namespace Runner

variable {registry : Registry} {config : Config} {w : World}

theorem run_ok {done : ExecutionResult} (h : ((Executor.run registry config).run w).1 = .ok done) :
    (run registry none config).run w =
      (.ok ⟨done, config.merge done.diff, false⟩, ((Executor.run registry config).run w).2) := by
  change (Program.andThen (Executor.run registry config) _).run w = _
  rw [Program.run_andThen, h]
  rfl

theorem run_failed {e : ExecutionError} (h : ((Executor.run registry config).run w).1 = .error e)
    (whole : ∀ state cause suppressed, e ≠ .partiallyFailed state cause suppressed) :
    (run registry none config).run w =
      (.error e, ((Executor.run registry config).run w).2) := by
  change (Program.andThen (Executor.run registry config) _).run w = _
  rw [Program.run_andThen, h]
  cases e with
  | partiallyFailed state cause suppressed => exact absurd rfl (whole state cause suppressed)
  | _ => rfl

theorem run_partiallyFailed {state : ResumeState} {cause : TaskError} {suppressed : List ExecutionError}
    (h : ((Executor.run registry config).run w).1 = .error (.partiallyFailed state cause suppressed)) :
    (run registry none config).run w =
      let late := (Executor.cleanup registry config state).run ((Executor.run registry config).run w).2
      (.error (suppress (.partiallyFailed state cause suppressed) late.1), late.2) := by
  change (Program.andThen (Executor.run registry config) _).run w = _
  rw [Program.run_andThen, h]
  exact Program.run_andThen (Executor.cleanup registry config state) _ _

end Runner

/-- The files that the input of a config finds. -/
def inputFiles (config : Config) (d : Disk) : List String :=
  let found : Attempt (List String) := do
    let input ← TransferPlugins.section? config "in"
    let search ← Attempt.ofConfig (input.load LocalInput.Search.shape)
    (LocalInput.list search d).1
  found.toOption.getD []

/-- The bytes of a file with the header and all rows of an input file. -/
def rendering (config : Config) (content : Bytes) : Attempt Bytes := do
  let source ← Source.ofConfig (← TransferPlugins.section? config "in")
  let filters ← Attempt.ofConfig (config.nestedList "filters")
  let schema ← Rename.through filters source.schema
  let output ← TransferPlugins.section? config "out"
  let (options, dialect) ← Csv.settings (← TransferPlugins.section? output "formatter") schema
  Csv.fileBytes options dialect schema (← Ltsv.fileRows source.options source.schema content)

/-- There are no files in the places of so many tasks. -/
def LocalOutput.Naming.IsClear (n : Naming) (count : Nat) (d : Disk) : Prop :=
  ∀ i < count, d.IsVacant (Path.place (n.path i 0)) ∧
    d.IsVacant (Path.place (tempPath (n.path i 0)))

/-- What a run leaves on a disk, given how its transfer ended and how the run itself did. -/
structure WholeOrNothing (config : Config) (n : LocalOutput.Naming) (before : Disk)
    (transfer : Except ExecutionError ExecutionResult) (result : Except ExecutionError RunOutcome)
    (after : Disk) : Prop where
  whole : ∀ outcome, result = .ok outcome → ∀ (i : Nat) (path : String),
    (inputFiles config before)[i]? = some path → ∃ content bytes,
      before.node? (Path.place path) = some (.file content) ∧
        rendering config content = .ok bytes ∧ after.fileAt? (n.path i 0) = some bytes ∧
          after.IsVacant (Path.place (LocalOutput.tempPath (n.path i 0)))
  nothing : ∀ e, result = .error e →
    n.IsClear (inputFiles config before).length after ∧ transfer = .error e
  elsewhere : ∀ l, (∀ i < (inputFiles config before).length, l ≠ Path.place (n.path i 0) ∧
      l ≠ Path.place (LocalOutput.tempPath (n.path i 0))) →
    ∀ content, after.node? l = some (.file content) ↔ before.node? l = some (.file content)

section Orders

open LocalOutput (Naming Delivery)

variable {config : Config} {n : Naming} {o : Order} {w : World}

theorem Executor.Finds.inputFiles_eq (finds : Executor.Finds config w o) :
    inputFiles config w.disk = o.files := by
  obtain ⟨-, inputConfig, -, -, given, -, -, read, -⟩ := Order.ofConfig_ok finds.ordered
  have loaded := (Source.ofConfig_ok read).1
  simp only [inputFiles, given, loaded, finds.listed, Attempt.ofConfig, Except.mapError, bind,
    Except.bind, Except.toOption, Option.getD_some]

/-- What each task writes, and that it renders the rows of its file. -/
theorem WritesFiles.delivery (writes : WritesFiles config n)
    (ordered : Order.ofConfig config o.files = .ok o) : ∃ formatterConfig options dialect,
      o.destination = .files n formatterConfig options dialect ∧
        (∀ i, o.delivery? i = some ⟨n, i, options, dialect, o.schema⟩) ∧
          ∀ content, rendering config content =
            Ltsv.fileRows o.source.options o.source.schema content >>=
              Csv.fileBytes options dialect o.schema := by
  obtain ⟨output, formatterConfig, options, dialect, wanted, named, made, files⟩ :=
    Order.destination_files ordered writes
  obtain ⟨-, inputConfig, _, filters, given, -, listed, read, passed, -⟩ := Order.ofConfig_ok ordered
  refine ⟨formatterConfig, options, dialect, files, fun i => ?_, fun content => ?_⟩
  · rw [Order.delivery?, files]
  · simp only [rendering, given, read, listed, Attempt.ofConfig, Except.mapError, passed, wanted,
      named, made, bind, Except.bind]

theorem WritesFiles.foreign (writes : WritesFiles config n)
    (ordered : Order.ofConfig config o.files = .ok o) {l : Location}
    (h : ∀ i < o.files.length, l ≠ Path.place (n.path i 0) ∧
      l ≠ Path.place (LocalOutput.tempPath (n.path i 0))) :
    ∀ i < o.files.length, ¬ o.Owns i l := by
  obtain ⟨_, options, dialect, -, delivers, -⟩ := writes.delivery ordered
  rintro i hi ⟨v, hv, own⟩
  obtain rfl := Option.some.inj (hv.symm.trans (delivers i))
  rcases own with same | same
  · exact (h i hi).2 same
  · exact (h i hi).1 same

/-- Files that are looked for cannot be where there is none, so tasks that begin without output
write to none of them. -/
theorem WritesFiles.unwritten (writes : WritesFiles config n) (finds : Executor.Finds config w o)
    (proper : w.disk.IsProper) (clear : n.IsClear o.files.length w.disk) {path : String}
    (hm : path ∈ o.files) : ∀ i < o.files.length, ¬ o.Owns i (Path.place path) := by
  obtain ⟨content, held⟩ := LocalInput.list_files proper finds.listed path hm
  exact writes.foreign finds.ordered fun i hi =>
    ⟨fun same => (clear i hi).1 content (same ▸ held), fun same => (clear i hi).2 content (same ▸ held)⟩

/-- Tasks that begin without output, each with places of its own. -/
def Terms.clean (pageSize : Nat) : Terms := ⟨True, True, False, pageSize, fun _ => trivial⟩

theorem WritesFiles.fits (writes : WritesFiles config n) (finds : Executor.Finds config w o)
    (allows : Delivery.Allows w.disk) (calm : ∀ choice ∈ w.schedule, ¬ choice.IsCrash)
    (apart : n.Apart o.files.length) (clear : n.IsClear o.files.length w.disk) (pageSize : Nat) :
    o.Fits (.clean pageSize) w := by
  obtain ⟨_, options, dialect, files, delivers, -⟩ := writes.delivery finds.ordered
  refine ⟨fun _ => Order.isSpread_files files apart, fun _ i hi v hv => ?_, fun _ => calm,
    fun h => h.elim⟩
  obtain rfl := Option.some.inj (hv.symm.trans (delivers i))
  exact ⟨allows, (clear i hi).2, (clear i hi).1⟩

/-- A cleanup of built-in plugins removes files of the output. -/
theorem Executor.cleanup_files {plugins : TransferPlugins} (b : plugins.IsBuiltIn config)
    (resolved : TransferPlugins.resolve Registry.builtIn config = .ok plugins)
    (type : plugins.outputConfig.require "type" .string = .ok "file") {s : ResumeState}
    {formatterConfig : Config} {options : Csv.Options} {dialect : Csv.Dialect}
    (input : s.inputTask = o.source.task o.files)
    (output : s.outputTask = (Destination.files n formatterConfig options dialect).task)
    (done : ((LocalOutput.cleanup (s.phaseReports .output)).run w).1 = .ok ()) :
    (Executor.cleanup Registry.builtIn config s).run w =
      (.ok (), ((LocalOutput.cleanup (s.phaseReports .output)).run w).2) := by
  have nothing : plugins.input.cleanup s.inputTask s.inputSchema s.taskCount
      (s.phaseReports .input) = .done (.ok ()) := by
    obtain ⟨cut, same⟩ := b.input
    rw [same, input]
    rfl
  have files : plugins.output.cleanup s.outputTask s.outputSchema s.taskCount
      (s.phaseReports .output) = LocalOutput.cleanup (s.phaseReports .output) := by
    rw [(b.output_files type).1, output]
    rfl
  unfold Executor.cleanup
  rw [resolved]
  dsimp only
  rw [nothing, files]
  change (Program.andThen (LocalOutput.cleanup (s.phaseReports .output)) _).run w = _
  rw [Program.run_andThen, done]
  rfl

end Orders

section Outcomes

open LocalOutput (Delivery)

variable {plugins : TransferPlugins} {config : Config} {o : Order} {t : Flight} {w : World}
  {launch : Disk} {pending : List Nat} {count i : Nat} {b : plugins.IsBuiltIn config}
  {ordered : Order.ofConfig config o.files = .ok o} {terms : Terms}
  {spread : terms.alone → o.IsSpread}
  (course : (o.charter b ordered terms spread).Course pending launch t w)
  (settled : t.Settled (List.replicate count .blank)) (started : t.progress.hasStarted = true)

include course settled started

theorem Order.outcome (hi : i < o.files.length) : ∃ outcome : TaskOutcome, outcome.index = i ∧
    t.progress.slots[i]? = some ⟨outcome.inputReport, outcome.outputReport, outcome.error⟩ ∧
      o.Settles terms i outcome w.disk := by
  obtain rfl : count = o.files.length := by
    have same := settled.count.symm.trans (course.frozen started).count
    rwa [List.length_replicate] at same
  exact course.slot settled started (List.getElem?_replicate_of_lt hi) rfl

/-- The tasks of a complete transfer have written what the files say that no task writes to. -/
theorem Order.rendered {n : LocalOutput.Naming} (writes : WritesFiles config n) (alone : terms.alone)
    (complete : t.progress.failedCount = 0) {path : String} (given : o.files[i]? = some path)
    (unwritten : ∀ j < o.files.length, ¬ o.Owns j (Path.place path)) :
    ∃ content bytes, launch.node? (Path.place path) = some (.file content) ∧
      rendering config content = .ok bytes ∧ w.disk.fileAt? (n.path i 0) = some bytes ∧
        w.disk.IsVacant (Path.place (LocalOutput.tempPath (n.path i 0))) := by
  have hi : i < o.files.length := (List.getElem?_eq_some_iff.mp given).1
  obtain ⟨_, options, dialect, -, delivers, renders⟩ := writes.delivery ordered
  obtain ⟨outcome, -, slot, settles⟩ := Order.outcome course settled started hi
  have committed := Progress.committed_of_failedCount complete slot
  rcases settles with ⟨path', rows, report, given', -, ⟨kept, -⟩, told⟩ | ⟨-, none, -⟩
  · obtain rfl : path = path' := Option.some.inj (given.symm.trans given')
    obtain ⟨way, -, moved, bytes, made, written⟩ := (kept _ (delivers i)).2 alone
    obtain ⟨content, held, told⟩ := told ⟨⟨path, given, rfl⟩, unwritten⟩
    refine ⟨content, bytes, ?_, ((renders content).trans (by rw [told]; rfl)).trans made,
      Disk.fileAt?_eq.mpr ⟨way, written⟩, fun other found => ?_⟩
    · exact (course.elsewhere unwritten).symm.trans (Disk.fileAt?_eq.mp held).2
    · exact absurd (moved.symm.trans found) (by simp)
  · simp [TaskSlot.isCommitted, none] at committed

variable {s : ResumeState} {runId : String} {execConfig : Config}
  (left : t.progress.resumeState? runId execConfig = some s)

include left

/-- A cleanup is given the reports of files that are in their places. -/
theorem Order.report_held {naming : LocalOutput.Naming} {formatterConfig : Config}
    {options : Csv.Options} {dialect : Csv.Dialect}
    (files : o.destination = .files naming formatterConfig options dialect) (alone : terms.alone)
    {report : Report} (given : report ∈ s.phaseReports .output) : ∃ i < o.files.length,
      ∃ v rows, o.delivery? i = some v ∧ report = v.report ∧ v.Holds rows w.disk := by
  rw [ResumeState.phaseReports_eq left, List.mem_filterMap] at given
  obtain ⟨slot, hm, reported⟩ := given
  obtain ⟨i, inside, rfl⟩ := List.getElem_of_mem hm
  have bound : i < o.files.length := by
    rw [settled.length, ← settled.count, (course.frozen started).count] at inside
    exact inside
  obtain ⟨outcome, -, slot, settles⟩ := Order.outcome course settled started bound
  rw [List.getElem?_eq_getElem inside, Option.some.injEq] at slot
  rw [slot] at reported
  rcases settles with ⟨path, rows, report', -, rfl, ⟨kept, -⟩, -⟩ | ⟨-, none, -⟩
  · have delivers := Order.delivery_files files i
    obtain ⟨said, holds⟩ := kept _ delivers
    cases reported
    exact ⟨i, bound, _, rows, delivers, said, holds alone⟩
  · change outcome.outputReport = some report at reported
    rw [none] at reported
    cases reported

theorem Order.cleared {after : Disk} (tidy : terms.tidy) (hi : i < o.files.length) {v : Delivery}
    (delivers : o.delivery? i = some v)
    (cleaned : LocalOutput.Cleaned (s.phaseReports .output) w.disk after) : v.IsClear after := by
  obtain ⟨outcome, -, slot, settles⟩ := Order.outcome course settled started hi
  rcases settles with ⟨path, rows, report, -, rfl, ⟨kept, -⟩, -⟩ | ⟨-, -, clear, -⟩
  · obtain ⟨rfl, holds⟩ := kept v delivers
    refine ⟨cleaned.vacant fun content held => ?_, cleaned.gone v ?_⟩
    · rw [(holds (terms.held tidy)).moved] at held
      cases held
    · rw [ResumeState.phaseReports_eq left, List.mem_filterMap]
      exact ⟨_, List.mem_of_getElem? slot, rfl⟩
  · obtain ⟨temp, final⟩ := clear tidy v delivers
    exact ⟨cleaned.vacant temp, cleaned.vacant final⟩

end Outcomes

namespace Runner

open LocalOutput (Naming Delivery)

variable {config : Config} {n : Naming} {w : World}

theorem nothing_of_idle {transfer : Except ExecutionError ExecutionResult} {e : ExecutionError}
    {result : Except ExecutionError RunOutcome} {before after : Disk}
    (clear : n.IsClear (inputFiles config before).length before) (grows : before.GrowsTo after)
    (failed : transfer = .error e) (same : result = .error e) :
    WholeOrNothing config n before transfer result after := by
  subst failed same
  constructor
  · intro outcome h
    cases h
  · intro e' h
    cases h
    exact ⟨fun i hi => ⟨grows.vacant (clear i hi).1, grows.vacant (clear i hi).2⟩, rfl⟩
  · exact fun l _ => grows.file l

section Landings

open LocalOutput (Cleaned)

variable {plugins : TransferPlugins} {o : Order} {l : Landing} {w' : World} {pending : List Nat}
  {launch : Disk} {count pageSize : Nat} {b : plugins.IsBuiltIn config}
  (finds : Executor.Finds config w o) {spread : (Terms.clean pageSize).alone → o.IsSpread}
  (writes : WritesFiles config n)
  (transfer : (Executor.run Registry.builtIn config).run w = (l.conclude, w'))
  (grows : w.disk.GrowsTo launch)
  (course : (o.charter b finds.ordered (.clean pageSize) spread).Course pending launch l.flight w')
  (settled : l.flight.Settled (List.replicate count .blank))

include finds writes transfer grows course settled

theorem whole_of_complete {diff : Report} (done : l.result = .ok diff)
    (complete : l.flight.IsComplete)
    (unwritten : ∀ path ∈ o.files, ∀ i < o.files.length, ¬ o.Owns i (Path.place path)) :
    WholeOrNothing config n w.disk ((Executor.run Registry.builtIn config).run w).1
      ((run Registry.builtIn none config).run w).1
      ((run Registry.builtIn none config).run w).2.disk := by
  have ran := run_ok ((congrArg Prod.fst transfer).trans (Landing.conclude_ok done))
  rw [ran, transfer, Landing.conclude_ok done]
  constructor
  · intro _ _ i path given
    rw [finds.inputFiles_eq] at given
    obtain ⟨content, bytes, held, left⟩ := Order.rendered course settled complete.1 writes trivial
      complete.2 given (unwritten path (List.mem_of_getElem? given))
    exact ⟨content, bytes, (grows.file _ content).mp held, left⟩
  · intro e h
    cases h
  · intro l foreign content
    rw [finds.inputFiles_eq] at foreign
    rw [course.elsewhere (writes.foreign finds.ordered foreign)]
    exact grows.file l content

theorem nothing_of_failed {e : PluginError} (failed : l.result = .error e) {s : ResumeState}
    (left : l.resumeState? = some s)
    (resolved : TransferPlugins.resolve Registry.builtIn config = .ok plugins)
    (type : plugins.outputConfig.require "type" .string = .ok "file")
    (allows : ∀ m path, w'.disk.refusal m (.remove path) = none) :
    WholeOrNothing config n w.disk ((Executor.run Registry.builtIn config).run w).1
      ((run Registry.builtIn none config).run w).1
      ((run Registry.builtIn none config).run w).2.disk := by
  obtain ⟨cause, suppressed, told⟩ := Landing.conclude_partiallyFailed failed left
  have started : l.flight.progress.hasStarted = true := (Progress.resumeState?_some left).1
  obtain ⟨formatterConfig, options, dialect, files, delivers, -⟩ := writes.delivery finds.ordered
  have leads : ∀ report ∈ s.phaseReports .output, ∃ v : Delivery, report = v.report ∧
      w'.disk.LeadsTo v.path ∧ w'.disk.node? (Path.place v.path) ≠ some .directory := by
    intro report given
    obtain ⟨i, -, v, rows, -, same, holds⟩ :=
      Order.report_held course settled started left files trivial given
    obtain ⟨bytes, -, held⟩ := holds.content
    exact ⟨v, same, holds.way, by simp [held]⟩
  obtain ⟨done, cleaned⟩ := LocalOutput.cleanup_removes allows leads
  have frozen := course.frozen started
  obtain ⟨input, -, output, -⟩ := Progress.resumeState?_frozen left
  have cleanup := Executor.cleanup_files b resolved type
    (Option.some.inj (input.symm.trans frozen.inputTask))
    ((Option.some.inj (output.symm.trans frozen.outputTask)).trans (congrArg Destination.task files)) done
  have ran := run_partiallyFailed ((congrArg Prod.fst transfer).trans told)
  rw [transfer, cleanup] at ran
  rw [ran, transfer, told]
  constructor
  · intro outcome h
    cases h
  · rintro _ ⟨⟩
    refine ⟨fun i hi => ?_, rfl⟩
    rw [finds.inputFiles_eq] at hi
    have clear := Order.cleared course settled started left trivial hi (delivers i) cleaned
    exact ⟨clear.2, clear.1⟩
  · intro place foreign content
    rw [finds.inputFiles_eq] at foreign
    rw [cleaned.frame.node place fun u given same => ?_]
    · rw [course.elsewhere (writes.foreign finds.ordered foreign)]
      exact grows.file place content
    · obtain ⟨i, hi, v, rows, hv, reported, -⟩ :=
        Order.report_held course settled started left files trivial given
      obtain rfl := Option.some.inj (hv.symm.trans (delivers i))
      rw [LocalOutput.Delivery.path_of_report reported] at same
      exact (foreign i hi).1 same

end Landings

/-- Whatever tasks fail or are cancelled and in whatever order they run: a transfer to files ends with
the file of every task, or it fails and leaves none of them. The paths have to lead to places of their
own, where there are no files before. -/
theorem run_leaves_all_files_or_none (writes : WritesFiles config n) (proper : w.disk.IsProper)
    (allows : Delivery.Allows w.disk) (calm : ∀ choice ∈ w.schedule, ¬ choice.IsCrash)
    (apart : n.Apart (inputFiles config w.disk).length)
    (clear : n.IsClear (inputFiles config w.disk).length w.disk) :
    WholeOrNothing config n w.disk ((Executor.run Registry.builtIn config).run w).1
      ((run Registry.builtIn none config).run w).1
      ((run Registry.builtIn none config).run w).2.disk := by
  cases departs : Executor.departure Registry.builtIn config with
  | error e =>
    have transfer : (Executor.run Registry.builtIn config).run w = (.error e, w) := by
      rw [Executor.run, departs]
      rfl
    have ran := run_failed (congrArg Prod.fst transfer) (Executor.departure_error departs)
    rw [ran, transfer]
    exact nothing_of_idle clear (.refl _) rfl rfl
  | ok d =>
    obtain ⟨_, _, plugins, resolved, -⟩ := Executor.departure_ok departs
    have b := TransferPlugins.resolve_builtIn resolved
    obtain ⟨output, wanted, type, loaded⟩ := writes
    obtain rfl : plugins.outputConfig = output := Except.ok.inj (b.outputConfig.symm.trans wanted)
    have writes : WritesFiles config n := ⟨_, wanted, type, loaded⟩
    have fits : ∀ o, Executor.Finds config w o →
        o.Fits (.clean (Pool.ofPageSize d.exec.pageSize).pageSize) w := by
      intro o finds
      have same := finds.inputFiles_eq
      rw [same] at apart clear
      exact writes.fits finds allows calm apart clear _
    have silent := Executor.silent_of_writes writes
    have goes := Executor.departure_leads departs resolved b silent rfl fits
    obtain ⟨count, settled⟩ := Executor.departure_settles departs w
    have transfer := Executor.run_departs (w := w) departs
    generalize hl : (d.fly.run w).1 = l at goes settled transfer
    generalize hw : (d.fly.run w).2 = w' at goes transfer
    rcases goes with ⟨⟨e, failed⟩, idle, -⟩ |
      ⟨o, finds, pending, launch, grows, -, course, started, ends⟩
    · have told := Landing.conclude_plugin failed (Landing.resumeState?_none idle.unstarted)
      have ran := run_failed ((congrArg Prod.fst transfer).trans told) (by simp)
      rw [ran, transfer]
      exact nothing_of_idle clear idle.grows told rfl
    · cases result : l.result with
      | ok diff =>
        have clear := finds.inputFiles_eq ▸ clear
        exact whole_of_complete finds writes transfer grows course settled result
          (ends diff result).2.1.1 fun path hm => writes.unwritten finds proper clear hm
      | error e =>
        cases left : l.resumeState? with
        | none =>
          exact absurd (started.symm.trans (Landing.unstarted_of_none settled left)) (by simp)
        | some s =>
          refine nothing_of_failed finds writes transfer grows course settled result left resolved
            type ?_
          rw [course.frame.refusal, grows.refusal]
          exact fun m path => (allows m path).2

def oneFile : Disk :=
  ⟨[(["in"], .directory), (["in", "1"], .file (Utf8.encode "a:1\n"))], 0, fun _ _ => none⟩

theorem one_file_is_left : inputFiles (copying "csv") oneFile = ["in/1"] ∧
    (∃ outcome, ((run Registry.builtIn none (copying "csv")).run (.ofDisk oneFile)).1 =
      .ok outcome) ∧ ∃ bytes, rendering (copying "csv") (Utf8.encode "a:1\n") = .ok bytes ∧
        ((run Registry.builtIn none (copying "csv")).run (.ofDisk oneFile)).2.disk.fileAt?
          "o000.00.csv" = some bytes := by
  have found : inputFiles (copying "csv") oneFile = ["in/1"] := by decide +kernel
  have left : WholeOrNothing (copying "csv") ⟨"o", "csv"⟩ oneFile _ _ _ :=
    run_leaves_all_files_or_none (w := .ofDisk oneFile) ⟨_, rfl, rfl, rfl⟩ (by decide)
    (fun _ _ => ⟨rfl, rfl⟩) (by simp [World.ofDisk]) (LocalOutput.Naming.apart_of_ending (by decide) _) (by
      have missing : oneFile.node? (Path.place "o000.00.csv") = none ∧
          oneFile.node? (Path.place "o000.00.csv.tmp") = none := by decide +kernel
      intro i hi
      rw [World.ofDisk, found] at hi
      obtain rfl : i = 0 := by simpa using hi
      constructor
      · exact fun content held => by cases missing.1.symm.trans held
      · exact fun content held => by cases missing.2.symm.trans held)
  have ended : ((run Registry.builtIn none (copying "csv")).run
      (.ofDisk oneFile)).1.toOption.isSome = true := by decide +kernel
  cases ran : ((run Registry.builtIn none (copying "csv")).run (.ofDisk oneFile)).1 with
  | error e =>
    rw [ran] at ended
    cases ended
  | ok outcome =>
    obtain ⟨content, bytes, held, rendered, written, -⟩ :=
      left.whole outcome ran 0 "in/1" (congrArg (·[0]?) found)
    have known : oneFile.node? (Path.place "in/1") = some (.file (Utf8.encode "a:1\n")) := by
      decide +kernel
    cases known.symm.trans held
    exact ⟨found, ⟨outcome, rfl⟩, bytes, rendered, written⟩

/-- Paths that step up behind the numbers of their tasks lead to one place, and the last task there
wins. -/
theorem climbing_paths_lose_rows : WritesFiles (copying "d/../x") ⟨"o", "d/../x"⟩ ∧
    (twoFiles true).IsProper ∧ Delivery.Allows (twoFiles true) ∧
      Naming.IsClear ⟨"o", "d/../x"⟩ (inputFiles (copying "d/../x") (twoFiles true)).length (twoFiles true) ∧
        ¬ WholeOrNothing (copying "d/../x") ⟨"o", "d/../x"⟩ (twoFiles true)
          ((Executor.run Registry.builtIn (copying "d/../x")).run (.ofDisk (twoFiles true))).1
          ((run Registry.builtIn none (copying "d/../x")).run (.ofDisk (twoFiles true))).1
          ((run Registry.builtIn none (copying "d/../x")).run (.ofDisk (twoFiles true))).2.disk := by
  have found : inputFiles (copying "d/../x") (twoFiles true) = ["in/1", "in/2"] := by
    change (LocalInput.list ⟨"in/", none⟩ (twoFiles true)).1.toOption.getD [] = _
    rw [twoFiles_listed]
    rfl
  refine ⟨⟨_, rfl, rfl, rfl⟩, by decide, fun _ _ => ⟨rfl, rfl⟩, fun i hi => ?_, fun whole => ?_⟩
  · rw [found] at hi
    have missing : ∀ i < 2, (twoFiles true).node? (Path.place (Naming.path ⟨"o", "d/../x"⟩ i 0)) = none ∧
        (twoFiles true).node? (Path.place (LocalOutput.tempPath (Naming.path ⟨"o", "d/../x"⟩ i 0))) =
          none := by decide +kernel
    constructor
    · exact fun content held => by cases (missing i hi).1.symm.trans held
    · exact fun content held => by cases (missing i hi).2.symm.trans held
  · obtain ⟨d, departs, checked⟩ := @copies_end "d/../x" true (fun l w =>
      l.result.toOption.isSome &&
        w.disk.fileAt? "o000.00.d/../x" == some (Utf8.encode "a\r\n2\r\n")) (by decide +kernel)
    rw [Bool.and_eq_true, beq_iff_eq] at checked
    cases result : (d.fly.run (.ofDisk (twoFiles true))).1.result with
    | error e =>
      rw [result] at checked
      cases checked.1
    | ok diff =>
      have transfer := Executor.run_departs (w := .ofDisk (twoFiles true)) departs
      have ran := run_ok ((congrArg Prod.fst transfer).trans (Landing.conclude_ok result))
      obtain ⟨content, bytes, held, rendered, written, -⟩ :=
        whole.whole _ (congrArg Prod.fst ran) 0 "in/1" (congrArg (·[0]?) found)
      have known : (twoFiles true).node? (Path.place "in/1") = some (.file (Utf8.encode "a:1\n")) := by
        decide +kernel
      cases known.symm.trans held
      have own : ((rendering (copying "d/../x") (Utf8.encode "a:1\n")).toOption ==
          some (Utf8.encode "a\r\n1\r\n")) = true := by decide +kernel
      rw [rendered, beq_iff_eq] at own
      cases own
      have path : Naming.path ⟨"o", "d/../x"⟩ 0 0 = "o000.00.d/../x" := by decide +kernel
      rw [path, ran, transfer, checked.2] at written
      exact absurd written (by decide +kernel)

end Runner

end BulkTransfer
