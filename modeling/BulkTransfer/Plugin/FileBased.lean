import BulkTransfer.Config.Shape
import BulkTransfer.Plugin.Registry
/-!
# File-based inputs and outputs

An input composed of a file input, decoders and a parser, and an output composed of a formatter,
encoders and a file output. The tasks of all parts are frozen together in one task. Bytes pass the
decoders in the order of the config, and the encoders likewise.
-/
namespace BulkTransfer

section Nesting

universe u

variable {P : Type u} {Q : Type}

/-- Runs the transactions of a list of stages inside each other, each with its own config, and in
the innermost one what comes after them, given their tasks. -/
def nestStages (transaction : P → Config → Transaction Task Unit Unit)
    (inmost : List Task → Transaction Q Unit Unit) :
    List (P × Config) → List Task → Transaction Q Unit Unit
  | [], tasks => inmost tasks
  | (plugin, config) :: rest, tasks =>
    (transaction plugin config).nest fun task =>
      nestStages transaction inmost rest (tasks ++ [task])

end Nesting

def docs (documents : List Document) : Tree := .arr (documents.map Document.toTree)

def documents : Decoder (List Document) := Decoder.list Document.decode

def nestedRequired (config : Config) (key : String) : Attempt Config :=
  match config.nested key with
  | .ok (some nested) => .ok nested
  | .ok none => .error (.config (.missing key))
  | .error e => .error (.config e)

section Input

structure FileBasedInput where
  fileInput : FileInputPlugin
  decoders : List DecoderPlugin
  parser : ParserPlugin

/-- The frozen tasks of all parts, with the configs that a resumed transaction needs again. -/
structure FileBasedInputTask where
  decoderConfigs : List Config
  parserConfig : Config
  fileInputTask : Task
  decoderTasks : List Task
  parserTask : Task

namespace FileBasedInputTask

def toTask (t : FileBasedInputTask) : Task :=
  ⟨[("decoder_configs", docs t.decoderConfigs), ("parser_config", t.parserConfig.toTree),
    ("file_input_task", t.fileInputTask.toTree), ("decoder_tasks", docs t.decoderTasks),
    ("parser_task", t.parserTask.toTree)]⟩

def fields : List RecordField :=
  [.required "decoder_configs" documents, .nullable "parser_config" Document.decode,
    .nullable "file_input_task" Document.decode, .required "decoder_tasks" documents,
    .nullable "parser_task" Document.decode]

def decode : Decoder FileBasedInputTask := fun tree => do
  let found ← Decoder.record "RunnerTask" fields tree
  let document (name : String) := Decoder.field found name Document.decode (.ok Document.empty)
  return ⟨← Decoder.field found "decoder_configs" documents, ← document "parser_config",
    ← document "file_input_task", ← Decoder.field found "decoder_tasks" documents,
    ← document "parser_task"⟩

def ofTask (task : Task) : Attempt FileBasedInputTask :=
  Attempt.ofConfig (task.loadTask decode)

end FileBasedInputTask

namespace FileBasedInput

def resolve (registry : Registry) (config : Config) : Attempt FileBasedInput :=
  match Registry.findTyped registry.fileInputs .fileInput config with
  | .error e => .error e
  | .ok fileInput =>
    match config.nestedList "decoders" with
    | .error e => .error (.config e)
    | .ok configs =>
      match Registry.findAll registry.decoders .decoder configs with
      | .error e => .error e
      | .ok decoders =>
        match nestedRequired config "parser" with
        | .error e => .error e
        | .ok parserConfig =>
          match Registry.findTyped registry.parsers .parser parserConfig with
          | .error e => .error e
          | .ok parser => .ok ⟨fileInput, decoders, parser⟩

def notRun : PluginError := .other "parser transaction returned without running the tasks"

/-- The transactions of the decoders and of the parser inside that of the file input. -/
def around (i : FileBasedInput) (decoderConfigs : List Config) (parserConfig : Config)
    (outer : Transaction FileInputRequest (List Report) Report) :
    Transaction InputRequest (List Report) Report :=
  outer.nest fun request =>
    let inmost (decoderTasks : List Task) : Transaction InputRequest Unit Unit :=
      (i.parser.transaction parserConfig).nest fun parsed =>
        let frozen : FileBasedInputTask :=
          ⟨decoderConfigs, parserConfig, request.task, decoderTasks, parsed.task⟩
        Transaction.call ⟨frozen.toTask, parsed.schema, request.taskCount⟩ .done
    (nestStages DecoderPlugin.transaction inmost (i.decoders.zip decoderConfigs) []).collecting
      notRun

def transaction (i : FileBasedInput) (config : Config) :
    Transaction InputRequest (List Report) Report :=
  match Attempt.ofConfig (config.nestedList "decoders"), nestedRequired config "parser" with
  | .error e, _ => Transaction.finish (.error e)
  | _, .error e => Transaction.finish (.error e)
  | .ok decoderConfigs, .ok parserConfig =>
    i.around decoderConfigs parserConfig (i.fileInput.transaction config)

def resume (i : FileBasedInput) (task : Task) (_ : Schema) (taskCount : Nat) :
    Transaction InputRequest (List Report) Report :=
  match FileBasedInputTask.ofTask task with
  | .error e => Transaction.finish (.error e)
  | .ok t =>
    i.around t.decoderConfigs t.parserConfig (i.fileInput.resume t.fileInputTask taskCount)

/-- Opens the decoders around a file input, each with its own task. -/
def openDecoders : List (DecoderPlugin × Task) → FileInput → Attempt FileInput
  | [], input => .ok input
  | (decoder, task) :: rest, input =>
    match decoder.openTask task input with
    | .ok wrapped => openDecoders rest wrapped
    | .error e => .error e

def openInput (i : FileBasedInput) (t : FileBasedInputTask) (index : Nat) :
    Attempt FileInput :=
  match i.fileInput.openTask t.fileInputTask index with
  | .ok input => openDecoders (i.decoders.zip t.decoderTasks) input
  | .error e => .error e

/-- Parses the files and commits the input. An input that was opened whole is aborted after a
failure, and closed in the end. -/
def run (i : FileBasedInput) (task : Task) (schema : Schema) (index : Nat) :
    Feed (Except RunFault Report) :=
  match FileBasedInputTask.ofTask task with
  | .error e => .done (.error (.failed e))
  | .ok t =>
    match i.openInput t index with
    | .error e => .done (.error (.failed e))
    | .ok input => do
      let parsed ← i.parser.run t.parserTask schema input
      let result ← match parsed with
        | .ok () => Program.ofAction input.commit
        | .error e => pure (.error e)
      if let .error _ := result then Program.ofAction input.abort
      Program.ofAction input.close
      return result.mapError .failed

def toInputPlugin (i : FileBasedInput) : InputPlugin where
  transaction := i.transaction
  resume := i.resume
  cleanup := fun task _ taskCount reports =>
    match FileBasedInputTask.ofTask task with
    | .error e => .done (.error e)
    | .ok t => i.fileInput.cleanup t.fileInputTask taskCount reports
  run := i.run

end FileBasedInput

end Input

section Output

structure FileBasedOutput where
  fileOutput : FileOutputPlugin
  encoders : List EncoderPlugin
  formatter : FormatterPlugin

structure FileBasedOutputTask where
  encoderConfigs : List Config
  formatterConfig : Config
  fileOutputTask : Task
  encoderTasks : List Task
  formatterTask : Task

namespace FileBasedOutputTask

def toTask (t : FileBasedOutputTask) : Task :=
  ⟨[("encoder_configs", docs t.encoderConfigs), ("formatter_config", t.formatterConfig.toTree),
    ("file_output_task", t.fileOutputTask.toTree), ("encoder_tasks", docs t.encoderTasks),
    ("formatter_task", t.formatterTask.toTree)]⟩

def fields : List RecordField :=
  [.required "encoder_configs" documents, .nullable "formatter_config" Document.decode,
    .nullable "file_output_task" Document.decode, .required "encoder_tasks" documents,
    .nullable "formatter_task" Document.decode]

def decode : Decoder FileBasedOutputTask := fun tree => do
  let found ← Decoder.record "RunnerTask" fields tree
  let document (name : String) := Decoder.field found name Document.decode (.ok Document.empty)
  return ⟨← Decoder.field found "encoder_configs" documents, ← document "formatter_config",
    ← document "file_output_task", ← Decoder.field found "encoder_tasks" documents,
    ← document "formatter_task"⟩

def ofTask (task : Task) : Attempt FileBasedOutputTask :=
  Attempt.ofConfig (task.loadTask decode)

end FileBasedOutputTask

namespace FileBasedOutput

def resolve (registry : Registry) (config : Config) : Attempt FileBasedOutput :=
  match Registry.findTyped registry.fileOutputs .fileOutput config with
  | .error e => .error e
  | .ok fileOutput =>
    match config.nestedList "encoders" with
    | .error e => .error (.config e)
    | .ok configs =>
      match Registry.findAll registry.encoders .encoder configs with
      | .error e => .error e
      | .ok encoders =>
        match nestedRequired config "formatter" with
        | .error e => .error e
        | .ok formatterConfig =>
          match Registry.findTyped registry.formatters .formatter formatterConfig with
          | .error e => .error e
          | .ok formatter => .ok ⟨fileOutput, encoders, formatter⟩

def notRun : PluginError := .other "formatter transaction returned without running the tasks"

/-- The transactions of the encoders and of the formatter inside that of the file output. -/
def around (o : FileBasedOutput) (encoderConfigs : List Config) (formatterConfig : Config)
    (schema : Schema) (outer : Transaction Task (List Report) Report) :
    Transaction Task (List Report) Report :=
  outer.nest fun fileOutputTask =>
    let inmost (encoderTasks : List Task) : Transaction Task Unit Unit :=
      (o.formatter.transaction formatterConfig schema).nest fun formatterTask =>
        let frozen : FileBasedOutputTask :=
          ⟨encoderConfigs, formatterConfig, fileOutputTask, encoderTasks, formatterTask⟩
        Transaction.call frozen.toTask .done
    (nestStages EncoderPlugin.transaction inmost (o.encoders.zip encoderConfigs) []).collecting
      notRun

def transaction (o : FileBasedOutput) (config : Config) (schema : Schema)
    (taskCount : Nat) : Transaction Task (List Report) Report :=
  match Attempt.ofConfig (config.nestedList "encoders"), nestedRequired config "formatter" with
  | .error e, _ => Transaction.finish (.error e)
  | _, .error e => Transaction.finish (.error e)
  | .ok encoderConfigs, .ok formatterConfig =>
    o.around encoderConfigs formatterConfig schema (o.fileOutput.transaction config taskCount)

def resume (o : FileBasedOutput) (task : Task) (schema : Schema) (taskCount : Nat) :
    Transaction Task (List Report) Report :=
  match FileBasedOutputTask.ofTask task with
  | .error e => Transaction.finish (.error e)
  | .ok t =>
    o.around t.encoderConfigs t.formatterConfig schema
      (o.fileOutput.resume t.fileOutputTask taskCount)

/-- Opens the encoders around a file output. The first one is outermost, so it sees the bytes
first. -/
def openEncoders : List (EncoderPlugin × Task) → FileOutput → Attempt FileOutput
  | [], output => .ok output
  | (encoder, task) :: rest, output =>
    match openEncoders rest output with
    | .ok wrapped => encoder.openTask task wrapped
    | .error e => .error e

def openTask (o : FileBasedOutput) (task : Task) (schema : Schema) (index : Nat) :
    Attempt PageOutput :=
  match FileBasedOutputTask.ofTask task with
  | .error e => .error e
  | .ok t =>
    match o.fileOutput.openTask t.fileOutputTask index with
    | .error e => .error e
    | .ok output =>
      match openEncoders (o.encoders.zip t.encoderTasks) output with
      | .error e => .error e
      | .ok output => o.formatter.openTask t.formatterTask schema output

def toOutputPlugin (o : FileBasedOutput) : OutputPlugin where
  transaction := o.transaction
  resume := o.resume
  cleanup := fun task _ taskCount reports =>
    match FileBasedOutputTask.ofTask task with
    | .error e => .done (.error e)
    | .ok t => o.fileOutput.cleanup t.fileOutputTask taskCount reports
  openTask := o.openTask

end FileBasedOutput

end Output

end BulkTransfer
