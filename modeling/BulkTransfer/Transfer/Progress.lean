import BulkTransfer.Transfer.Plugins
import BulkTransfer.Transfer.ResumeState
import BulkTransfer.Transfer.TaskPlan
/-!
# Progress

What a transfer has frozen so far and how each of its tasks ended. The transactions fill it in; when
the transfer does not commit, it becomes a resume state.
-/
namespace BulkTransfer

/-- What is known of a task. -/
structure TaskSlot where
  input : Option Report
  output : Option Report
  error : Option PluginError
  deriving Repr, Inhabited

namespace TaskSlot

def blank : TaskSlot := ⟨none, none, none⟩

def isCommitted (s : TaskSlot) : Bool := s.input.isSome && s.output.isSome

end TaskSlot

/-- A failed task; without an index, the transaction failed after tasks had been launched. -/
structure TaskError where
  index : Option Nat
  error : PluginError
  deriving Repr

def TaskError.message (e : TaskError) : String :=
  match e.index with
  | some index => "task " ++ toString index ++ " failed: " ++ e.error.message
  | none => "transaction failed: " ++ e.error.message

structure Progress where
  inputTask : Option Task
  inputSchema : Option Schema
  filterTasks : List Task
  filterSchemas : List Schema
  outputTask : Option Task
  outputSchema : Option Schema
  taskCount : Nat
  slots : List TaskSlot
  hasStarted : Bool

namespace Progress

def fresh : Progress := ⟨none, none, [], [], none, none, 0, [], false⟩

/-- A task that committed on both sides keeps its reports; any other one starts again. -/
def resumedSlot (saved : ResumeState) (index : Nat) : TaskSlot :=
  if saved.isTaskCommitted index then
    let report (phase : TaskPhase) := (saved.record? phase index).bind TaskRecord.report
    ⟨report .input, report .output, none⟩
  else .blank

def resumed (saved : ResumeState) : Progress where
  inputTask := some saved.inputTask
  inputSchema := some saved.inputSchema
  filterTasks := saved.filterTasks
  filterSchemas := saved.filterSchemas
  outputTask := some saved.outputTask
  outputSchema := some saved.outputSchema
  taskCount := saved.taskCount
  slots := (List.range saved.taskCount).map (resumedSlot saved)
  hasStarted := false

/-- Slots are kept when their number is right, as after a resume. -/
def setInput (p : Progress) (task : Task) (schema : Schema) (taskCount : Nat) : Progress :=
  let fits := p.taskCount = taskCount ∧ p.slots.length = taskCount
  { p with
    inputTask := some task
    inputSchema := some schema
    slots := if fits then p.slots else List.replicate taskCount .blank
    taskCount }

def pushFilter (p : Progress) (task : Task) (schema : Schema) : Progress :=
  { p with filterTasks := p.filterTasks ++ [task], filterSchemas := p.filterSchemas ++ [schema] }

def setOutput (p : Progress) (task : Task) (schema : Schema) : Progress :=
  { p with outputTask := some task, outputSchema := some schema }

def markStarted (p : Progress) : Progress := { p with hasStarted := true }

def uncommitted (p : Progress) : List (TaskSlot × Nat) :=
  p.slots.zipIdx.filter fun (slot, _) => !slot.isCommitted

/-- The tasks that still have to run. -/
def pendingTasks (p : Progress) : List Nat := p.uncommitted.map Prod.snd

def failedCount (p : Progress) : Nat := p.uncommitted.length

def record (p : Progress) (o : TaskOutcome) : Progress :=
  { p with slots := p.slots.modify o.index fun _ => ⟨o.inputReport, o.outputReport, o.error⟩ }

def reports (p : Progress) (side : TaskSlot → Option Report) : Attempt (List Report) :=
  p.slots.zipIdx.mapM fun (slot, index) =>
    match side slot with
    | some report => .ok report
    | none => .error (.other ("task " ++ toString index ++ " has no report"))

def inputReports (p : Progress) : Attempt (List Report) := p.reports TaskSlot.input

def outputReports (p : Progress) : Attempt (List Report) := p.reports TaskSlot.output

def reportsOf (p : Progress) : TaskPhase → Attempt (List Report)
  | .input => p.inputReports
  | .output => p.outputReports

/-- Filters with their tasks, each between the schema before it and its own. -/
def filterTasksFrom (schema : Schema) :
    List (FilterChoice × Task × Schema) → List FilterTask
  | [] => []
  | (filter, task, output) :: rest =>
    ⟨filter.plugin, task, schema, output⟩ :: filterTasksFrom output rest

/-- What each task needs, once both sides have begun. -/
def plan (p : Progress) (plugins : TransferPlugins) : Attempt TaskPlan :=
  match p.inputTask, p.inputSchema, p.outputTask, p.outputSchema with
  | some inputTask, some inputSchema, some outputTask, some outputSchema =>
    let filters := filterTasksFrom inputSchema
      (plugins.filters.zip (p.filterTasks.zip p.filterSchemas))
    .ok ⟨plugins.input, inputTask, inputSchema, filters, plugins.output, outputTask, outputSchema⟩
  | some _, some _, _, _ => .error (.other "output transaction has not started")
  | _, _, _, _ => .error (.other "input transaction has not started")

/-- The failures in task order. A task that neither committed nor failed did not complete. -/
def taskErrors (p : Progress) : List TaskError :=
  p.uncommitted.map fun (slot, index) =>
    ⟨some index, slot.error.getD (.other "task did not complete")⟩

/-- The failures, which are then forgotten. -/
def takeTaskErrors (p : Progress) : List TaskError × Progress :=
  let forgetting (slot : TaskSlot) : TaskSlot :=
    if slot.isCommitted then slot else { slot with error := none }
  (p.taskErrors, { p with slots := p.slots.map forgetting })

def recordsOf (inputTask outputTask : Task) (slot : TaskSlot) (index : Nat) :
    List TaskRecord :=
  [⟨.input, index, slot.input.isSome, inputTask, slot.input⟩,
    ⟨.output, index, slot.output.isSome, outputTask, slot.output⟩]

/-- The state to resume from; there is none when no task was launched. -/
def resumeState? (p : Progress) (runId : String) (execConfig : Config) : Option ResumeState := do
  if !p.hasStarted then none
  let inputTask ← p.inputTask
  let outputTask ← p.outputTask
  let inputSchema ← p.inputSchema
  let outputSchema ← p.outputSchema
  some {
    runId, execConfig, inputTask, inputSchema, outputTask, outputSchema
    filterTasks := p.filterTasks
    filterSchemas := p.filterSchemas
    taskCount := p.taskCount
    tasks := p.slots.zipIdx.flatMap fun (slot, index) =>
      recordsOf inputTask outputTask slot index }

end Progress

end BulkTransfer
