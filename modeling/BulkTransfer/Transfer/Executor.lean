import BulkTransfer.Transfer.ExecConfig
import BulkTransfer.Transfer.Progress
import BulkTransfer.Transfer.RunId
import BulkTransfer.Transfer.StateStore
import BulkTransfer.Transfer.Workers
/-!
# The executor

Runs the transactions of the input, of the filters and of the output inside each other, and the
tasks inside all of them. When tasks were launched and the whole did not commit, the error carries
the state from which the transfer can be resumed or cleaned up.
-/
namespace BulkTransfer

inductive ExecutionError where
  | config (cause : ConfigError)
  /-- A transaction failed before any task was launched. -/
  | plugin (cause : PluginError)
  | task (cause : TaskError)
  /-- Some tasks may have committed; other failures are suppressed. -/
  | partiallyFailed (state : ResumeState) (cause : TaskError) (suppressed : List ExecutionError)
  | cleanup (causes : List PluginError)
  | filterCountMismatch (configured saved : Nat)
  | stateStore (cause : StateStoreError)

def ExecutionError.message : ExecutionError → String
  | config cause => "Config error: " ++ cause.message
  | plugin cause => "Plugin error: " ++ cause.message
  | task cause => cause.message
  | partiallyFailed _ cause _ => "Transfer partially failed: " ++ cause.message
  | cleanup causes => "Cleanup failed: " ++ "; ".intercalate (causes.map PluginError.message)
  | filterCountMismatch configured saved =>
    "Resume state does not match the config: config has " ++ toString configured ++
      " filters, resume state has " ++ toString saved
  | stateStore cause => "Resume state error: " ++ cause.message

/-- What a committed transfer gives: the diffs of its input and of its output, and its counters. -/
structure ExecutionResult where
  diff : Report
  metrics : Metrics

/-- What happens in a flight that others rely on: which tasks are launched, how each task ends, and
which reports are handed to the transaction of a side. -/
inductive FlightEvent where
  | launched (index : Nat)
  | ended (outcome : TaskOutcome)
  | reported (side : TaskPhase) (reports : List Report)

/-- A transfer in flight. -/
structure Flight where
  exec : ExecConfig
  progress : Progress
  outputDiff : Option Report
  /-- In the order in which they happened. -/
  events : List FlightEvent

namespace Flight

def ofProgress (exec : ExecConfig) (progress : Progress) : Flight := ⟨exec, progress, none, []⟩

/-- Takes over how the tasks ended. -/
def settle (t : Flight) (crew : Crew) : Flight :=
  { t with
    progress := crew.outcomes.foldl Progress.record t.progress
    events := t.events ++ crew.launched.map .launched ++ crew.outcomes.map .ended }

end Flight

namespace Executor

abbrev Flying := StateT Flight Action

def update (f : Progress → Progress) : Flying Unit :=
  modify fun t => { t with progress := f t.progress }

/-- The reports of a side, handed to its transaction. -/
def handOver (side : TaskPhase) : Flying (Attempt (List Report)) := do
  match (← get).progress.reportsOf side with
  | .error e => return .error e
  | .ok reports =>
    modify fun t => { t with events := t.events ++ [.reported side reports] }
    return .ok reports

/-- The tasks that have not committed are run; all of them must have committed then. -/
def runTasks (plugins : TransferPlugins) : Flying (Attempt Unit) := do
  match (← get).progress.plan plugins with
  | .error e => return .error e
  | .ok plan =>
    let pending := (← get).progress.pendingTasks
    update Progress.markStarted
    let crew ← Workers.runAll plan (← get).exec.threads pending
    modify fun t => t.settle crew
    let progress := (← get).progress
    match progress.failedCount with
    | 0 => return .ok ()
    | failed => return .error (.tasksFailed failed progress.taskCount)

/-- What the output asks for: its task is noted, the tasks are run, and it gets their reports. -/
def outputControl (plugins : TransferPlugins) (schema : Schema) (task : Task) :
    Flying (Attempt (List Report)) := do
  update fun p => p.setOutput task schema
  match ← runTasks plugins with
  | .error e => return .error e
  | .ok () => handOver .output

/-- The transaction of the output; a resumed one goes on from its saved task. -/
def runOutput (plugins : TransferPlugins) (isResuming : Bool) (schema : Schema) :
    Flying (Attempt Unit) := do
  let progress := (← get).progress
  let count := progress.taskCount
  let transaction := match progress.outputTask, isResuming with
    | some task, true => plugins.output.resume task schema count
    | _, _ => plugins.output.transaction plugins.outputConfig schema count
  match ← transaction.drive (outputControl plugins schema) with
  | .error e => return .error e
  | .ok diff =>
    modify fun t => { t with outputDiff := some diff }
    return .ok ()

/-- The transactions of the filters, each inside the one before, with the output inside all. -/
def runFilters (plugins : TransferPlugins) : List FilterChoice → Schema → Flying (Attempt Unit)
  | [], schema => runOutput plugins false schema
  | f :: rest, schema =>
    (f.plugin.transaction f.config schema).drive fun request => do
      update fun p => p.pushFilter request.task request.schema
      runFilters plugins rest request.schema

/-- What a fresh input asks for. -/
def inputControl (plugins : TransferPlugins) (request : InputRequest) :
    Flying (Attempt (List Report)) := do
  update fun p => p.setInput request.task request.schema request.taskCount
  match ← runFilters plugins plugins.filters request.schema with
  | .error e => return .error e
  | .ok () => handOver .input

/-- What a resumed input asks for. The filters have run their transactions before. -/
def resumedInputControl (plugins : TransferPlugins) (request : InputRequest) :
    Flying (Attempt (List Report)) := do
  let saved := (← get).progress.taskCount
  if saved ≠ request.taskCount then
    return .error (.other ("resumed input reports " ++ toString request.taskCount ++
      " tasks, resume state has " ++ toString saved))
  update fun p => p.setInput request.task request.schema request.taskCount
  match (← get).progress.outputSchema with
  | none => return .error (.other "resume state has no output schema")
  | some schema =>
    match ← runOutput plugins true schema with
    | .error e => return .error e
    | .ok () => handOver .input

def isTasksFailed : PluginError → Bool
  | .tasksFailed _ _ => true
  | _ => false

/-- The first failed task is the cause; without one it is the transaction itself. -/
def blame (errors : List TaskError) (e : PluginError) : TaskError × List ExecutionError :=
  match errors with
  | [] => (⟨none, e⟩, [])
  | first :: others =>
    (first, others.map .task ++ (if isTasksFailed e then [] else [.plugin e]))

end Executor

/-- A transfer that is about to begin. -/
structure Departure where
  runId : String
  execConfig : Config
  exec : ExecConfig
  progress : Progress
  transaction : Transaction InputRequest (List Report) Report
  control : InputRequest → Executor.Flying (Attempt (List Report))

/-- A transfer that has ended, with how the transaction of its input ended. -/
structure Landing where
  runId : String
  execConfig : Config
  flight : Flight
  result : Attempt Report
  metrics : Metrics

namespace Landing

/-- The state to resume from. -/
def resumeState? (l : Landing) : Option ResumeState :=
  l.flight.progress.resumeState? l.runId l.execConfig

/-- What is told of a transfer that has ended. -/
def conclude (l : Landing) : Except ExecutionError ExecutionResult :=
  match l.result with
  | .ok inputDiff =>
    .ok ⟨(Document.empty.setNested "in" inputDiff).setNested "out"
      (l.flight.outputDiff.getD Document.empty), l.metrics⟩
  | .error e =>
    match l.resumeState? with
    | none => .error (.plugin e)
    | some state =>
      let (cause, suppressed) := Executor.blame l.flight.progress.taskErrors e
      .error (.partiallyFailed state cause suppressed)

end Landing

namespace Departure

/-- Runs the transaction of the input around everything else, in a session of its own. -/
def fly (d : Departure) : Action Landing := do
  Program.change fun w => w.beginSession d.exec.pageSize
  let (result, flight) ← (d.transaction.drive d.control).run (.ofProgress d.exec d.progress)
  let metrics ← Program.look World.metrics
  return ⟨d.runId, d.execConfig, flight, result, metrics⟩

end Departure

namespace Executor

def settings (config : Config) : Except ConfigError (Config × ExecConfig) := do
  let section_ ← config.nestedOrEmpty "exec"
  return (section_, ← section_.load ExecConfig.shape)

def departure (registry : Registry) (config : Config) : Except ExecutionError Departure :=
  match settings config with
  | .error e => .error (.config e)
  | .ok (execConfig, exec) =>
    match TransferPlugins.resolve registry config with
    | .error e => .error (.plugin e)
    | .ok plugins => .ok {
        runId := runId config, execConfig, exec
        progress := .fresh
        transaction := plugins.input.transaction plugins.inputConfig
        control := inputControl plugins }

/-- Only the tasks that a saved state does not record as committed are to run; the reports of the
others are taken from it. -/
def resumption (registry : Registry) (config : Config) (saved : ResumeState) :
    Except ExecutionError Departure :=
  match saved.execConfig.load ExecConfig.shape with
  | .error e => .error (.config e)
  | .ok exec =>
    match TransferPlugins.resolve registry config with
    | .error e => .error (.plugin e)
    | .ok plugins =>
      if plugins.filters.length ≠ saved.filterTasks.length then
        .error (.filterCountMismatch plugins.filters.length saved.filterTasks.length)
      else .ok {
        runId := saved.runId, execConfig := saved.execConfig, exec
        progress := .resumed saved
        transaction := plugins.input.resume saved.inputTask saved.inputSchema saved.taskCount
        control := resumedInputControl plugins }

def depart (departure : Except ExecutionError Departure) :
    Action (Except ExecutionError ExecutionResult) :=
  match departure with
  | .error e => .done (.error e)
  | .ok d => do return (← d.fly).conclude

def run (registry : Registry) (config : Config) :
    Action (Except ExecutionError ExecutionResult) :=
  depart (departure registry config)

def resume (registry : Registry) (config : Config) (saved : ResumeState) :
    Action (Except ExecutionError ExecutionResult) :=
  depart (resumption registry config saved)

def faults : List (Attempt Unit) → List PluginError
  | [] => []
  | .error e :: rest => e :: faults rest
  | .ok () :: rest => faults rest

/-- Undoes what the committed sides of an interrupted transfer left behind. Both sides are cleaned
up even if one of them fails. -/
def cleanup (registry : Registry) (config : Config) (saved : ResumeState) :
    Action (Except ExecutionError Unit) :=
  match TransferPlugins.resolve registry config with
  | .error e => .done (.error (.plugin e))
  | .ok plugins => do
    let input ← plugins.input.cleanup saved.inputTask saved.inputSchema saved.taskCount
      (saved.phaseReports .input)
    let output ← plugins.output.cleanup saved.outputTask saved.outputSchema saved.taskCount
      (saved.phaseReports .output)
    match faults [input, output] with
    | [] => return .ok ()
    | causes => return .error (.cleanup causes)

end Executor

end BulkTransfer
