import BulkTransfer.Config.Document
import BulkTransfer.Schema.Basic
import BulkTransfer.Yaml.Form
import BulkTransfer.Yaml.Writer
/-!
# Resume states

All that is needed to go on with an interrupted transfer, or to clean up after it: the frozen tasks
and schemas, and for each task and side whether it committed and with which report.
-/
namespace BulkTransfer

inductive TaskPhase where
  | input
  | output
  deriving DecidableEq, Repr

namespace TaskPhase

def name : TaskPhase → String
  | input => "input"
  | output => "output"

def decode : Decoder TaskPhase := Decoder.choice [("input", input), ("output", output)]

end TaskPhase

/-- How one side of a task ended. -/
structure TaskRecord where
  phase : TaskPhase
  index : Nat
  isCommitted : Bool
  task : Task
  report : Option Report
  deriving Repr

namespace TaskRecord

def optionalReport : Decoder (Option Report) := Decoder.optional Document.decode

def fields : List RecordField :=
  [.required "phase" TaskPhase.decode, .required "index" Decoder.count,
    .required "committed" Decoder.bool, .nullable "task_source" Document.decode,
    .defaulted "report" optionalReport]

def decode : Decoder TaskRecord := fun tree => do
  let found ← Decoder.record "TaskRecord" fields tree
  return ⟨← Decoder.field found "phase" TaskPhase.decode,
    ← Decoder.field found "index" Decoder.count,
    ← Decoder.field found "committed" Decoder.bool,
    ← Decoder.field found "task_source" Document.decode (.ok Document.empty),
    ← Decoder.field found "report" optionalReport (.ok none)⟩

/-- A missing report is left out. -/
def toTree (r : TaskRecord) : Tree :=
  let report := match r.report with
    | some report => [("report", report.toTree)]
    | none => []
  .obj ([("phase", .str r.phase.name), ("index", .ofNat r.index),
    ("committed", .bool r.isCommitted), ("task_source", r.task.toTree)] ++ report)

end TaskRecord

structure ResumeState where
  runId : String
  execConfig : Config
  inputTask : Task
  inputSchema : Schema
  outputTask : Task
  outputSchema : Schema
  filterTasks : List Task
  filterSchemas : List Schema
  taskCount : Nat
  tasks : List TaskRecord

namespace ResumeState

/-- The first record of a side of a task. -/
def record? (s : ResumeState) (phase : TaskPhase) (index : Nat) : Option TaskRecord :=
  s.tasks.find? fun r => r.phase = phase ∧ r.index = index

/-- A task counts as committed when both of its sides did. -/
def isTaskCommitted (s : ResumeState) (index : Nat) : Bool :=
  [TaskPhase.input, TaskPhase.output].all fun phase =>
    (s.record? phase index).any TaskRecord.isCommitted

def committedTasks (s : ResumeState) : List Nat :=
  (List.range s.taskCount).filter s.isTaskCommitted

/-- The reports of every task whose side committed, whether or not the other side did, in the order
of the tasks. This is what a cleanup has to undo. -/
def phaseReports (s : ResumeState) (phase : TaskPhase) : List Report :=
  let committed := s.tasks.filter fun r => r.phase = phase ∧ r.isCommitted
  (committed.mergeSort fun a b => a.index ≤ b.index).filterMap TaskRecord.report

section Codec

def documents : Decoder (List Document) := Decoder.list Document.decode
def schemas : Decoder (List Schema) := Decoder.list Schema.decode
def records : Decoder (List TaskRecord) := Decoder.list TaskRecord.decode

def fields : List RecordField :=
  [.required "run_id" Decoder.string, .nullable "exec_config" Document.decode,
    .nullable "input_task" Document.decode, .required "input_schema" Schema.decode,
    .nullable "output_task" Document.decode, .required "output_schema" Schema.decode,
    .defaulted "filter_tasks" documents, .defaulted "filter_schemas" schemas,
    .required "task_count" Decoder.count, .required "tasks" records]

def decode : Decoder ResumeState := fun tree => do
  let found ← Decoder.record "ResumeState" fields tree
  let document (name : String) := Decoder.field found name Document.decode (.ok Document.empty)
  return {
    runId := ← Decoder.field found "run_id" Decoder.string
    execConfig := ← document "exec_config"
    inputTask := ← document "input_task"
    inputSchema := ← Decoder.field found "input_schema" Schema.decode
    outputTask := ← document "output_task"
    outputSchema := ← Decoder.field found "output_schema" Schema.decode
    filterTasks := ← Decoder.field found "filter_tasks" documents (.ok [])
    filterSchemas := ← Decoder.field found "filter_schemas" schemas (.ok [])
    taskCount := ← Decoder.field found "task_count" Decoder.count
    tasks := ← Decoder.field found "tasks" records }

def toTree (s : ResumeState) : Tree :=
  .obj [("run_id", .str s.runId), ("exec_config", s.execConfig.toTree),
    ("input_task", s.inputTask.toTree), ("input_schema", s.inputSchema.toTree),
    ("output_task", s.outputTask.toTree), ("output_schema", s.outputSchema.toTree),
    ("filter_tasks", .arr (s.filterTasks.map Document.toTree)),
    ("filter_schemas", .arr (s.filterSchemas.map Schema.toTree)),
    ("task_count", .ofNat s.taskCount), ("tasks", .arr (s.tasks.map TaskRecord.toTree))]

open Yaml (Form)

def schemaForm : Form :=
  .list (.record [("index", .count), ("name", .text), ("type", .word)])

/-- What is wanted at each place of a state in YAML. -/
def form : Form :=
  .record [("run_id", .text), ("exec_config", .object), ("input_task", .object),
    ("input_schema", schemaForm), ("output_task", .object), ("output_schema", schemaForm),
    ("filter_tasks", .list .object), ("filter_schemas", .list schemaForm),
    ("task_count", .count),
    ("tasks", .list (.record [("phase", .word), ("index", .count), ("committed", .flag),
      ("task_source", .object), ("report", .object)]))]

def ofYaml (text : String) : Except YamlFault ResumeState := do
  match decode (← Tree.ofYaml form text) with
  | .ok s => return s
  | .error cause => throw (.mismatched cause.message)

def yaml (s : ResumeState) : String := s.toTree.yaml

end Codec

end ResumeState

end BulkTransfer
