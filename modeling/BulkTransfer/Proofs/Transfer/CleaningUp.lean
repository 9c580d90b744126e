import BulkTransfer.Proofs.Disk.Agreement
import BulkTransfer.Proofs.Local.Sweeping
import BulkTransfer.Proofs.Transfer.BuiltIn
import BulkTransfer.Proofs.Transfer.Turns
/-!
# Cleanups that are hindered and repeated

A cleanup of local files takes nothing but the files that committed records list. When it has passed none
of them is left and another cleanup has nothing to do; where a removal failed it can be repeated, any
number of times, and ends as one that nothing hindered.
-/
namespace BulkTransfer

namespace ResumeState

/-- A record of a committed output lists this path. -/
def Lists (s : ResumeState) (path : String) : Prop :=
  ∃ r ∈ s.tasks, r.phase = .output ∧ r.isCommitted = true ∧ ∃ report files, r.report = some report ∧
    report.getOr "files" .strings [] = .ok files ∧ path ∈ files

theorem lists_iff {s : ResumeState} {path : String} :
    (∃ report ∈ s.phaseReports .output, path ∈ LocalOutput.listed report) ↔ s.Lists path := by
  have member : ∀ report, path ∈ LocalOutput.listed report ↔
      ∃ files, report.getOr "files" .strings [] = .ok files ∧ path ∈ files := by
    intro report
    rw [LocalOutput.listed]
    cases report.getOr "files" .strings [] <;> simp
  simp only [member, mem_phaseReports, Lists]
  constructor
  · rintro ⟨report, ⟨r, hr, side, committed, has⟩, files, decoded, listed⟩
    exact ⟨r, hr, side, committed, report, files, has, decoded, listed⟩
  · rintro ⟨r, hr, side, committed, report, files, has, decoded, listed⟩
    exact ⟨report, ⟨r, hr, side, committed, has⟩, files, decoded, listed⟩

end ResumeState

namespace TransferPlugins

def inputCleanup (plugins : TransferPlugins) (saved : ResumeState) : Action (Attempt Unit) :=
  plugins.input.cleanup saved.inputTask saved.inputSchema saved.taskCount (saved.phaseReports .input)

def outputCleanup (plugins : TransferPlugins) (saved : ResumeState) : Action (Attempt Unit) :=
  plugins.output.cleanup saved.outputTask saved.outputSchema saved.taskCount (saved.phaseReports .output)

end TransferPlugins

namespace Executor

/-- What is told of how both sides ended. -/
def verdict (input output : Attempt Unit) : Except ExecutionError Unit :=
  if faults [input, output] = [] then .ok () else .error (.cleanup (faults [input, output]))

theorem verdict_ok {input output : Attempt Unit} :
    verdict input output = .ok () ↔ input = .ok () ∧ output = .ok () := by
  rw [← faults_eq_nil, verdict]
  by_cases none : faults [input, output] = []
  · simp [none]
  · simp [none]

theorem verdict_of_input {e : PluginError} {output : Attempt Unit} :
    verdict (.error e) output = .error (.cleanup [e]) ↔ output = .ok () := by
  cases output <;> simp [verdict, faults]

end Executor

/-- What can be relied on of a cleanup. -/
structure TidyingLaw (plugins : TransferPlugins) (saved : ResumeState)
    (cleanup : Action (Except ExecutionError Unit)) : Prop where
  /-- The output is cleaned up behind the input, whatever that answered. -/
  bothSides : ∀ w,
    let input := (plugins.inputCleanup saved).run w
    let output := (plugins.outputCleanup saved).run input.2
    cleanup.run w = (Executor.verdict input.1 output.1, output.2)
  /-- Whatever was refused, some listed files are gone, and nothing else has changed. -/
  framed : ∀ w : World, w.disk.Sheds saved.Lists (cleanup.run w).2.disk
  /-- If nothing failed, or only the input did, no listed path leads to anything. -/
  complete : ∀ w : World, w.disk.IsHonest →
    ((cleanup.run w).1 = .ok () ∨
      ∃ e, ((plugins.inputCleanup saved).run w).1 = .error e ∧ (cleanup.run w).1 = .error (.cleanup [e])) →
    ∀ path, saved.Lists path → (cleanup.run w).2.disk.IsGone path
  /-- After one that passed, another one changes nothing, and passes if nothing hinders it. Nothing does where
  what is refused does not depend on the time. -/
  repeats : ∀ w v : World, w.disk.IsHonest → (cleanup.run w).1 = .ok () →
    v.disk.nodes = (cleanup.run w).2.disk.nodes →
      (cleanup.run v).2.disk.nodes = v.disk.nodes ∧
        (v.disk.Allows saved.Lists ∨ v.disk.IsSteady ∧ v.disk.refusal = w.disk.refusal →
          ((plugins.inputCleanup saved).run v).1 = .ok () → (cleanup.run v).1 = .ok ())
  /-- After any attempts, one that nothing hinders ends as it would have without them. -/
  resumes : ∀ u v : World, Relation.ReflTransGen (Attempted cleanup) u.disk.nodes v.disk.nodes →
    u.disk.Allows saved.Lists → v.disk.Allows saved.Lists →
      (cleanup.run v).2.disk.nodes = (cleanup.run u).2.disk.nodes ∧
        (((plugins.inputCleanup saved).run v).1 = ((plugins.inputCleanup saved).run u).1 →
          (cleanup.run v).1 = (cleanup.run u).1)

theorem FileBasedOutput.cleanup_tidies {o : FileBasedOutput} (files : o.fileOutput = LocalOutput.plugin)
    (task : Task) (schema : Schema) (taskCount : Nat) (reports : List Report) :
    Tidies (fun path => ∃ report ∈ reports, path ∈ LocalOutput.listed report)
      (o.toOutputPlugin.cleanup task schema taskCount reports) := by
  unfold FileBasedOutput.toOutputPlugin
  dsimp only
  cases FileBasedOutputTask.ofTask task with
  | error e => exact .done fun passed => by cases passed
  | ok t =>
    rw [files]
    exact LocalOutput.cleanup_tidies reports

/-- The built-in input has nothing to clean up. -/
theorem FileBasedInput.cleanup_keeps_disk (cut : LocalInput.Cutting) (task : Task) (schema : Schema)
    (taskCount : Nat) (reports : List Report) (w : World) :
    (((cutting cut).toInputPlugin.cleanup task schema taskCount reports).run w).2.disk = w.disk := by
  unfold FileBasedInput.toInputPlugin
  dsimp only
  cases FileBasedInputTask.ofTask task <;> rfl

namespace Executor

variable {registry : Registry} {config : Config} {plugins : TransferPlugins} {saved : ResumeState}
  {o : FileBasedOutput}

/-- For every state and every disk, whatever is refused at any time: a cleanup of a transfer into local files
keeps the law, when the cleanup of the input leaves the disk alone, as that of the built-in one does. -/
theorem cleanup_of_local_files_is_tidy (resolved : TransferPlugins.resolve registry config = .ok plugins)
    (output : plugins.output = o.toOutputPlugin) (files : o.fileOutput = LocalOutput.plugin)
    (keeps : ∀ w, ((plugins.inputCleanup saved).run w).2.disk = w.disk) :
    TidyingLaw plugins saved (cleanup registry config saved) := by
  have tidies : Tidies saved.Lists (plugins.outputCleanup saved) := by
    rw [TransferPlugins.outputCleanup, output]
    exact (FileBasedOutput.cleanup_tidies files _ _ _ _).of_iff fun _ => ResumeState.lists_iff
  let out := (plugins.inputCleanup saved).andThen fun _ => plugins.outputCleanup saved
  have tidies : Tidies saved.Lists out := tidies.behind keeps
  have runs : ∀ w, (cleanup registry config saved).run w =
      (verdict ((plugins.inputCleanup saved).run w).1 (out.run w).1, (out.run w).2) := by
    intro w
    rw [Program.run_andThen]
    exact cleanup_run resolved
  have disk : ∀ w, ((cleanup registry config saved).run w).2 = (out.run w).2 := fun w => by rw [runs]
  have attempted : Attempted (cleanup registry config saved) = Attempted out := by
    unfold Attempted
    simp only [disk]
  constructor
  · exact fun w => cleanup_run resolved
  · intro w
    rw [disk]
    exact tidies.sheds w
  · intro w honest told
    rw [disk]
    refine tidies.gone honest ?_
    rcases told with passed | ⟨e, failed, told⟩
    · rw [runs] at passed
      exact (verdict_ok.mp passed).2
    · rw [runs, failed] at told
      exact verdict_of_input.mp told
  · intro w v honest passed same
    rw [runs] at passed same
    obtain ⟨-, passed⟩ := verdict_ok.mp passed
    rw [disk]
    have gone : ∀ path, saved.Lists path → v.disk.IsGone path := fun path listed =>
      (tidies.gone honest passed path listed).of_nodes same
    refine ⟨(tidies.sheds v).unchanged gone, fun free input => ?_⟩
    have allows : v.disk.Allows saved.Lists := by
      rcases free with allows | ⟨steady, refusal⟩
      · exact allows
      · intro path listed n
        obtain ⟨m, allowed⟩ := tidies.allowed honest passed path listed
        rw [steady n m, refusal, allowed]
    rw [runs]
    exact verdict_ok.mpr ⟨input, tidies.idles honest passed allows gone⟩
  · intro u v attempts allows allows'
    rw [attempted] at attempts
    obtain ⟨answers, nodes⟩ := tidies.resumes_after attempts allows allows'
    rw [disk, disk]
    refine ⟨nodes.symm, fun input => ?_⟩
    rw [runs, runs, input, answers]

section Hindered

def hinderedConfig : Config :=
  ⟨[("in", .obj [("type", .str "file"), ("parser", .obj [("type", .str "ltsv")])]),
    ("out", .obj [("type", .str "file"), ("formatter", .obj [("type", .str "csv")])])]⟩

def hinderedPlugins : TransferPlugins where
  input := (FileBasedInput.cutting .regular).toInputPlugin
  inputConfig := ⟨[("type", .str "file"), ("parser", .obj [("type", .str "ltsv")])]⟩
  filters := []
  output := FileBasedOutput.builtIn.toOutputPlugin
  outputConfig := ⟨[("type", .str "file"), ("formatter", .obj [("type", .str "csv")])]⟩

theorem hinderedPlugins_resolved :
    TransferPlugins.resolve Registry.builtIn hinderedConfig = .ok hinderedPlugins := rfl

def filesReport (files : List String) : Report := ⟨[("files", .arr (files.map .str))]⟩

/-- Two tasks have committed files, the second of which lists one that is not there. -/
def interrupted : ResumeState where
  runId := "run-0"
  execConfig := .empty
  inputTask := (FileBasedInputTask.mk [] .empty .empty [] .empty).toTask
  inputSchema := .empty
  outputTask := (FileBasedOutputTask.mk [] .empty .empty [] .empty).toTask
  outputSchema := .empty
  filterTasks := []
  filterSchemas := []
  taskCount := 2
  tasks := [⟨.output, 1, true, .empty, some (filesReport ["o/2", "o/3"])⟩,
    ⟨.output, 0, true, .empty, some (filesReport ["o/1"])⟩]

def outputsLeft (refuses : Bool) : World :=
  .ofDisk ⟨[(["o"], .directory), (["o", "1"], .file [1]), (["o", "2"], .file [2]), (["o", "4"], .file [4])],
    0, fun _ a => if refuses ∧ a = .remove "o/2" then some .permissionDenied else none⟩

def tidyUp : Action (Except ExecutionError Unit) := cleanup Registry.builtIn hinderedConfig interrupted

theorem tidyUp_run (w : World) :
    let removed := (LocalOutput.cleanup [filesReport ["o/1"], filesReport ["o/2", "o/3"]]).run w
    tidyUp.run w = (verdict (.ok ()) removed.1, removed.2) := by
  intro removed
  have reports : interrupted.phaseReports .output = [filesReport ["o/1"], filesReport ["o/2", "o/3"]] := by
    cbv
  have run : tidyUp.run w = _ := cleanup_run hinderedPlugins_resolved
  rw [reports] at run
  exact run

/-- The first attempt was stopped; now nothing is refused. -/
def relieved : World :=
  let stopped := (tidyUp.run (outputsLeft true)).2
  { stopped with disk := { stopped.disk with refusal := fun _ _ => none } }

/-- One file is removed, and the removal of the second one is refused. The next cleanup removes what the
first one would have. -/
theorem stopped_cleanup_is_made_up_for :
    (tidyUp.run (outputsLeft true)).1.isOk = false ∧ relieved.disk.nodes =
        [(["o"], .directory), (["o", "2"], .file [2]), (["o", "4"], .file [4])] ∧
      (tidyUp.run relieved).1 = .ok () ∧
        (tidyUp.run relieved).2.disk.nodes = [(["o"], .directory), (["o", "4"], .file [4])] := by
  have law : TidyingLaw hinderedPlugins interrupted tidyUp :=
    cleanup_of_local_files_is_tidy hinderedPlugins_resolved rfl rfl
      fun w => FileBasedInput.cleanup_keeps_disk .regular _ _ _ _ w
  have honest : (outputsLeft true).disk.IsHonest := by
    intro n path
    change (if true = true ∧ Access.remove path = .remove "o/2" then some IoError.permissionDenied
      else none) ≠ some .notFound
    split <;> simp
  have attempt : Attempted tidyUp (outputsLeft false).disk.nodes relieved.disk.nodes :=
    ⟨outputsLeft true, honest, rfl, rfl⟩
  have free : (outputsLeft false).disk.Allows interrupted.Lists := by
    intro path _ n
    change (if false = true ∧ Access.remove path = .remove "o/2" then some IoError.permissionDenied
      else none) = none
    simp
  obtain ⟨nodes, answer⟩ := law.resumes (outputsLeft false) relieved (.single attempt) free
    fun _ _ _ => rfl
  refine ⟨?_, ?_, (answer rfl).trans ?_, nodes.trans ?_⟩
  · rw [tidyUp_run]
    decide +kernel
  · rw [relieved, tidyUp_run]
    decide +kernel
  · rw [tidyUp_run]
    rfl
  · rw [tidyUp_run]
    decide +kernel

end Hindered

end Executor

end BulkTransfer
