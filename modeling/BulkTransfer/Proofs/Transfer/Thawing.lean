import BulkTransfer.Proofs.Plugin.CodecOrder
import BulkTransfer.Proofs.Transfer.OpeningOrders
import BulkTransfer.Proofs.Transfer.Renaming
/-!
# Thawed tasks

What the transactions of the built-in plugins freeze, whatever the config: tasks that read back as the
very options that the config was loaded as. A task made of the tasks of other plugins reads back as
these tasks, each as it was, and so does a resumed transaction find them.
-/
namespace BulkTransfer

variable {Q R α β : Type}

/-- Whenever the transaction asks its control for something, the task in it reads back as one of these
values. -/
def Transaction.Thaws (t : Transaction Q R α) (task : Q → Task) (decode : Decoder β)
    (frozen : World → Q → β → Prop) : Prop :=
  ∀ w q w', t.Calls w q w' → ∃ b, (task q).loadTask decode = .ok b ∧ frozen w q b

namespace Transaction

variable {task : Q → Task} {decode : Decoder β} {frozen : World → Q → β → Prop}

theorem finish_thaws (result : Attempt α) :
    (finish result : Transaction Q R α).Thaws task decode frozen := by
  rintro w q w' ⟨_, ⟨⟩⟩

theorem call_thaws {q : Q} {resume : Attempt R → Action (Attempt α)}
    (h : ∀ w, ∃ b, (task q).loadTask decode = .ok b ∧ frozen w q b) :
    (call q resume : Transaction Q R α).Thaws task decode frozen := by
  intro w q' w' calls
  obtain ⟨rfl, rfl⟩ := call_calls.mp calls
  exact h _

/-- An operation on the disk before a transaction. -/
theorem onDisk_thaws {ρ : Type} {operation : Disk → ρ × Disk} {f : ρ → Transaction Q R α}
    (h : ∀ w : World, (f (operation w.disk).1).Thaws task decode fun _ => frozen w) :
    Thaws (Program.andThen (Program.onDisk operation) f) task decode frozen := by
  rintro w q w' ⟨resume, ran⟩
  exact h w _ q w' ⟨resume, ran⟩

end Transaction

open Transaction

/-- What any config is loaded as reads back from the task it is frozen in. -/
def Shape.Thaws (shape : Shape α) (toTask : α → Task) : Prop :=
  ∀ (config : Config) (a : α), config.load shape = .ok a → (toTask a).loadTask shape.decode = .ok a

namespace Ltsv

theorem Options.shape_thaws : Options.shape.Thaws Options.toTask := fun _ o _ => o.loadTask_toTask

theorem transaction_thaws (config : Config) :
    (transaction config).Thaws ParserRequest.task Options.decode fun _ q o =>
      config.load Options.shape = .ok o ∧ o.columns.toSchema = .ok q.schema := by
  unfold transaction
  cases config.load Options.shape with
  | error e => exact finish_thaws _
  | ok o =>
    dsimp only
    cases made : o.columns.toSchema with
    | error e => exact finish_thaws _
    | ok s => exact call_thaws fun _ => ⟨o, o.loadTask_toTask, rfl, made⟩

end Ltsv

namespace Csv

theorem Options.shape_thaws : Options.shape.Thaws Options.toTask :=
  fun _ _ loaded => Options.loadTask_toTask (load_sorted loaded)

theorem transaction_thaws (config : Config) (s : Schema) :
    (transaction config s).Thaws id Options.decode fun _ _ o =>
      config.load Options.shape = .ok o ∧ o.validate s = .ok () := by
  unfold transaction
  cases loaded : config.load Options.shape with
  | error e => exact finish_thaws _
  | ok o =>
    cases valid : o.validate s with
    | error e =>
      simp only [bind, Except.bind, valid]
      exact finish_thaws _
    | ok _ =>
      simp only [bind, Except.bind, valid]
      exact call_thaws fun _ => ⟨o, Options.shape_thaws config o loaded, rfl, valid⟩

end Csv

namespace Rename

theorem load_sorted {config : Config} {o : Options} (h : config.load Options.shape = .ok o) :
    o.IsSorted := by
  obtain ⟨_, decoded⟩ := Document.load_decoded h
  exact Options.decode_sorted decoded

theorem Options.shape_thaws : Options.shape.Thaws Options.toTask :=
  fun _ _ loaded => Options.loadTask_toTask (load_sorted loaded)

theorem transaction_thaws (config : Config) (s : Schema) :
    (transaction config s).Thaws FilterRequest.task Options.decode fun _ q o =>
      config.load Options.shape = .ok o ∧ s.rename (List.lookup · o.columns) = .ok q.schema := by
  intro w q w' calls
  obtain ⟨-, o, loaded, task, renamed⟩ := transaction_calls.mp calls
  rw [task]
  exact ⟨o, Options.shape_thaws config o loaded, loaded, renamed⟩

end Rename

namespace LocalInput

theorem Files.loadTask_toTask (f : Files) : f.toTask.loadTask Files.decode = .ok f :=
  Attempt.of_mapError (Files.ofTask_toTask f)

/-- A resumed input goes on with the task that it has left. -/
theorem resume_calls {f : Files} {count : Nat} {q : FileInputRequest} {w w' : World} :
    (resume f.toTask count).Calls w q w' ↔ q = ⟨f.toTask, count⟩ ∧ w' = w := by
  rw [resume, Files.ofTask_toTask]
  exact call_calls

theorem transaction_thaws (config : Config) :
    (transaction config).Thaws FileInputRequest.task Files.decode fun w q f => ∃ search,
      config.load Search.shape = .ok search ∧ (list search w.disk).1 = .ok f.files ∧
        f.lastPath = search.lastPath ∧ q.taskCount = f.files.length := by
  unfold transaction
  cases config.load Search.shape with
  | error e => exact finish_thaws _
  | ok search =>
    refine onDisk_thaws fun w => ?_
    cases listed : (list search w.disk).1 with
    | error e => exact finish_thaws _
    | ok files =>
      intro _ q w' calls
      obtain ⟨rfl, -⟩ := resume_calls.mp calls
      exact ⟨_, Files.loadTask_toTask _, search, rfl, listed, rfl, rfl⟩

/-- With the files that it finds, an input does ask for its tasks. -/
theorem calls_of_listed {config : Config} {search : Search} {files : List String} {w : World}
    (loaded : config.load Search.shape = .ok search) (listed : (list search w.disk).1 = .ok files) :
    ∃ w', (transaction config).Calls w ⟨(Files.mk files search.lastPath).toTask, files.length⟩ w' := by
  refine ⟨{ w with disk := (list search w.disk).2 }, ?_⟩
  simp only [Calls, transaction, loaded, Program.run_andThen]
  rw [Program.onDisk, Program.run, Program.run_done, listed]
  exact resume_calls.mpr ⟨rfl, rfl⟩

end LocalInput

namespace LocalOutput

theorem Naming.shape_thaws : Naming.shape.Thaws Naming.toTask := fun _ n _ => n.loadTask_toTask

/-- A resumed output goes on with the task that it has left. -/
theorem resume_calls {task q : Task} {count : Nat} {w w' : World} :
    (resume task count).Calls w q w' ↔ q = task ∧ w' = w := call_calls

theorem transaction_thaws (config : Config) (count : Nat) :
    (transaction config count).Thaws id Naming.decode fun _ _ n =>
      config.load Naming.shape = .ok n := by
  unfold transaction
  cases config.load Naming.shape with
  | error e => exact finish_thaws _
  | ok n =>
    have resumed : (resume n.toTask count).Thaws id Naming.decode fun _ _ m =>
        (.ok n : Except ConfigError Naming) = .ok m :=
      call_thaws fun _ => ⟨n, n.loadTask_toTask, rfl⟩
    dsimp only
    split
    · exact resumed
    · exact resumed
    · refine onDisk_thaws fun w => ?_
      split
      · exact finish_thaws _
      · exact resumed

end LocalOutput

section FileBased

theorem FileBasedInputTask.loadTask_toTask (t : FileBasedInputTask) :
    t.toTask.loadTask FileBasedInputTask.decode = .ok t := Attempt.of_mapError t.ofTask_toTask

theorem FileBasedOutputTask.loadTask_toTask (t : FileBasedOutputTask) :
    t.toTask.loadTask FileBasedOutputTask.decode = .ok t := Attempt.of_mapError t.ofTask_toTask

variable {configs : List Config} {config : Config} {schema : Schema}

namespace FileBasedInput

variable {i : FileBasedInput}

/-- The task of a file-based input reads back as the tasks that its parts have asked for. -/
theorem Begun.thaws {outer : Transaction FileInputRequest (List Report) Report}
    {tran : Transaction InputRequest (List Report) Report} (begun : i.Begun configs config outer tran) :
    tran.Thaws InputRequest.task FileBasedInputTask.decode fun w q t =>
      ∃ w', i.Freezes configs config outer w t q.schema q.taskCount w' := by
  intro w q w' calls
  rw [begun.eq_around] at calls
  obtain ⟨t, task, freezes⟩ := around_calls.mp calls
  rw [task]
  exact ⟨t, t.loadTask_toTask, w', freezes⟩

/-- A config without the parts that are needed is given up before anything is asked for. -/
theorem begun_of_calls {w w' : World} {q : InputRequest} (calls : (i.transaction config).Calls w q w') :
    ∃ configs parserConfig,
      i.Begun configs parserConfig (i.fileInput.transaction config) (i.transaction config) := by
  cases decoders : config.nestedList "decoders" with
  | error e =>
    simp only [transaction, decoders] at calls
    obtain ⟨_, ⟨⟩⟩ := calls
  | ok configs =>
    cases parser : nestedRequired config "parser" with
    | error e =>
      simp only [transaction, decoders, parser] at calls
      obtain ⟨_, ⟨⟩⟩ := calls
    | ok parserConfig => exact ⟨configs, parserConfig, .fresh decoders parser⟩

/-- The parts of the task of local files with labelled fields read back in turn. -/
theorem builtIn_thaws (files : i.fileInput = LocalInput.plugin) (fields : i.parser = Ltsv.parser)
    (config : Config) :
    (i.transaction config).Thaws InputRequest.task FileBasedInputTask.decode fun w _ t =>
      (∃ search f, config.load LocalInput.Search.shape = .ok search ∧
        (LocalInput.list search w.disk).1 = .ok f.files ∧ f.lastPath = search.lastPath ∧
          t.fileInputTask.loadTask LocalInput.Files.decode = .ok f) ∧
      ∃ o, t.parserConfig.load Ltsv.Options.shape = .ok o ∧
        t.parserTask.loadTask Ltsv.Options.decode = .ok o := by
  intro w q w' calls
  obtain ⟨configs, parserConfig, begun⟩ := begun_of_calls calls
  obtain ⟨t, read, _, fileInput, -, parser, -, rfl⟩ := begun.thaws w q w' calls
  rw [files] at fileInput
  rw [fields] at parser
  obtain ⟨f, filesRead, search, loaded, listed, last, -⟩ :=
    LocalInput.transaction_thaws config _ _ _ fileInput
  obtain ⟨o, optionsRead, options, -⟩ := Ltsv.transaction_thaws t.parserConfig _ _ _ parser
  exact ⟨t, read, ⟨search, f, loaded, listed, last, filesRead⟩, o, options, optionsRead⟩

end FileBasedInput

namespace FileBasedOutput

variable {o : FileBasedOutput}

/-- The task of a file-based output reads back as the tasks that its parts have asked for. -/
theorem Begun.thaws {outer tran : Transaction Task (List Report) Report}
    (begun : o.Begun schema configs config outer tran) :
    tran.Thaws id FileBasedOutputTask.decode fun w _ t =>
      ∃ w', o.Freezes configs config schema outer w t w' := by
  intro w q w' calls
  rw [begun.eq_around] at calls
  obtain ⟨t, rfl, freezes⟩ := around_calls.mp calls
  exact ⟨t, t.loadTask_toTask, w', freezes⟩

theorem begun_of_calls {count : Nat} {w w' : World} {q : Task}
    (calls : (o.transaction config schema count).Calls w q w') :
    ∃ configs formatterConfig, o.Begun schema configs formatterConfig
      (o.fileOutput.transaction config count) (o.transaction config schema count) := by
  cases encoders : config.nestedList "encoders" with
  | error e =>
    simp only [transaction, encoders] at calls
    obtain ⟨_, ⟨⟩⟩ := calls
  | ok configs =>
    cases formatter : nestedRequired config "formatter" with
    | error e =>
      simp only [transaction, encoders, formatter] at calls
      obtain ⟨_, ⟨⟩⟩ := calls
    | ok formatterConfig => exact ⟨configs, formatterConfig, .fresh encoders formatter count⟩

/-- The parts of the task of local files with comma-separated records read back in turn. -/
theorem builtIn_thaws (files : o.fileOutput = LocalOutput.plugin) (records : o.formatter = Csv.formatter)
    (config : Config) (schema : Schema) (count : Nat) :
    (o.transaction config schema count).Thaws id FileBasedOutputTask.decode fun _ _ t =>
      (∃ n, config.load LocalOutput.Naming.shape = .ok n ∧
        t.fileOutputTask.loadTask LocalOutput.Naming.decode = .ok n) ∧
      ∃ p, t.formatterConfig.load Csv.Options.shape = .ok p ∧ p.validate schema = .ok () ∧
        t.formatterTask.loadTask Csv.Options.decode = .ok p := by
  intro w q w' calls
  obtain ⟨configs, formatterConfig, begun⟩ := begun_of_calls calls
  obtain ⟨t, read, _, fileOutput, -, formatter, -, rfl⟩ := begun.thaws w q w' calls
  rw [files] at fileOutput
  rw [records] at formatter
  obtain ⟨n, namingRead, naming⟩ := LocalOutput.transaction_thaws config count _ _ _ fileOutput
  obtain ⟨p, optionsRead, options, valid⟩ :=
    Csv.transaction_thaws t.formatterConfig schema _ _ _ formatter
  exact ⟨t, read, ⟨n, naming, namingRead⟩, p, options, valid, optionsRead⟩

end FileBasedOutput

end FileBased

/-- Whatever a config is loaded as reads back from the task in which it is frozen, and so do the files of a
run and tasks that are made of the tasks of other plugins. The transactions of the built-in plugins freeze
just that: each of their tasks reads back as what the config was loaded as, also as a part of the task of a
file-based input or output, whose parts are what the plugins in it have asked for. Resumed transactions begin
with the same parts. -/
theorem frozen_tasks_load_back :
    (Ltsv.Options.shape.Thaws Ltsv.Options.toTask ∧ Csv.Options.shape.Thaws Csv.Options.toTask ∧
      Rename.Options.shape.Thaws Rename.Options.toTask ∧
        LocalOutput.Naming.shape.Thaws LocalOutput.Naming.toTask) ∧
    ((∀ f : LocalInput.Files, f.toTask.loadTask LocalInput.Files.decode = .ok f) ∧
      (∀ t : FileBasedInputTask, t.toTask.loadTask FileBasedInputTask.decode = .ok t) ∧
        ∀ t : FileBasedOutputTask, t.toTask.loadTask FileBasedOutputTask.decode = .ok t) ∧
    ((∀ config, (Ltsv.transaction config).Thaws ParserRequest.task Ltsv.Options.decode fun _ q o =>
        config.load Ltsv.Options.shape = .ok o ∧ o.columns.toSchema = .ok q.schema) ∧
      (∀ config s, (Csv.transaction config s).Thaws id Csv.Options.decode fun _ _ o =>
        config.load Csv.Options.shape = .ok o ∧ o.validate s = .ok ()) ∧
      (∀ config s, (Rename.transaction config s).Thaws FilterRequest.task Rename.Options.decode fun _ q o =>
        config.load Rename.Options.shape = .ok o ∧ s.rename (List.lookup · o.columns) = .ok q.schema) ∧
      (∀ config, (LocalInput.transaction config).Thaws FileInputRequest.task LocalInput.Files.decode
        fun w q f => ∃ search, config.load LocalInput.Search.shape = .ok search ∧
          (LocalInput.list search w.disk).1 = .ok f.files ∧ f.lastPath = search.lastPath ∧
            q.taskCount = f.files.length) ∧
      ∀ config count, (LocalOutput.transaction config count).Thaws id LocalOutput.Naming.decode fun _ _ n =>
        config.load LocalOutput.Naming.shape = .ok n) ∧
    ((∀ (i : FileBasedInput) configs parserConfig outer tran, i.Begun configs parserConfig outer tran →
        tran.Thaws InputRequest.task FileBasedInputTask.decode fun w q t =>
          ∃ w', i.Freezes configs parserConfig outer w t q.schema q.taskCount w') ∧
      ∀ (o : FileBasedOutput) schema configs formatterConfig outer tran,
        o.Begun schema configs formatterConfig outer tran →
          tran.Thaws id FileBasedOutputTask.decode fun w _ t =>
            ∃ w', o.Freezes configs formatterConfig schema outer w t w') ∧
    ((∀ i : FileBasedInput, i.fileInput = LocalInput.plugin → i.parser = Ltsv.parser → ∀ config,
        (i.transaction config).Thaws InputRequest.task FileBasedInputTask.decode fun w _ t =>
          (∃ search f, config.load LocalInput.Search.shape = .ok search ∧
            (LocalInput.list search w.disk).1 = .ok f.files ∧ f.lastPath = search.lastPath ∧
              t.fileInputTask.loadTask LocalInput.Files.decode = .ok f) ∧
          ∃ o, t.parserConfig.load Ltsv.Options.shape = .ok o ∧
            t.parserTask.loadTask Ltsv.Options.decode = .ok o) ∧
      ∀ o : FileBasedOutput, o.fileOutput = LocalOutput.plugin → o.formatter = Csv.formatter →
        ∀ config schema count,
          (o.transaction config schema count).Thaws id FileBasedOutputTask.decode fun _ _ t =>
            (∃ n, config.load LocalOutput.Naming.shape = .ok n ∧
              t.fileOutputTask.loadTask LocalOutput.Naming.decode = .ok n) ∧
            ∃ p, t.formatterConfig.load Csv.Options.shape = .ok p ∧ p.validate schema = .ok () ∧
              t.formatterTask.loadTask Csv.Options.decode = .ok p) ∧
    (∀ (i : FileBasedInput) (t : FileBasedInputTask) schema count,
      i.Begun t.decoderConfigs t.parserConfig (i.fileInput.resume t.fileInputTask count)
        (i.resume t.toTask schema count)) ∧
    (∀ (o : FileBasedOutput) (t : FileBasedOutputTask) schema count,
      o.Begun schema t.encoderConfigs t.formatterConfig (o.fileOutput.resume t.fileOutputTask count)
        (o.resume t.toTask schema count)) ∧
    (∀ (f : LocalInput.Files) count w q w', (LocalInput.resume f.toTask count).Calls w q w' ↔
      q = ⟨f.toTask, count⟩ ∧ w' = w) ∧
    ∀ task count w q w', (LocalOutput.resume task count).Calls w q w' ↔ q = task ∧ w' = w := by
  refine ⟨⟨Ltsv.Options.shape_thaws, Csv.Options.shape_thaws, Rename.Options.shape_thaws,
      LocalOutput.Naming.shape_thaws⟩,
    ⟨LocalInput.Files.loadTask_toTask, FileBasedInputTask.loadTask_toTask,
      FileBasedOutputTask.loadTask_toTask⟩,
    ⟨Ltsv.transaction_thaws, Csv.transaction_thaws, Rename.transaction_thaws,
      LocalInput.transaction_thaws, LocalOutput.transaction_thaws⟩,
    ⟨fun _ _ _ _ _ begun => begun.thaws, fun _ _ _ _ _ _ begun => begun.thaws⟩,
    ⟨fun _ files fields => FileBasedInput.builtIn_thaws files fields,
      fun _ files records => FileBasedOutput.builtIn_thaws files records⟩,
    fun i t schema count => .resumed t.ofTask_toTask schema count,
    fun o t schema count => .resumed t.ofTask_toTask count,
    fun f count w q w' => LocalInput.resume_calls, fun task count w q w' => LocalOutput.resume_calls⟩

/-- A null text that is null, a column without a format, options by default, and the task of a reader. -/
theorem options_with_nulls_load_back :
    let fields : Config := ⟨[("columns", .arr [.obj [("name", .str "host"), ("type", .str "string")],
      .obj [("name", .str "at"), ("type", .str "timestamp"), ("format", .str "%Y")]]),
      ("null_string", .null)]⟩
    let options : Ltsv.Options :=
      ⟨[⟨"host", .string, none⟩, ⟨"at", .timestamp, some "%Y"⟩], none, false, .lf⟩
    let records : Csv.Options := ⟨",", true, "", .crlf, []⟩
    let naming : LocalOutput.Naming := ⟨"out/part", "csv"⟩
    let config : Config := ⟨[("path_prefix", .str "logs/"), ("parser", fields.toTree)]⟩
    let reader : FileBasedInput := ⟨LocalInput.plugin, [], Ltsv.parser⟩
    (fields.load Ltsv.Options.shape = .ok options ∧
      options.toTask.loadTask Ltsv.Options.decode = .ok options) ∧
    (Document.empty.load Csv.Options.shape = .ok records ∧
      records.toTask.loadTask Csv.Options.decode = .ok records) ∧
    (Document.empty.load Rename.Options.shape = .ok ⟨[]⟩ ∧
      (Rename.Options.mk []).toTask.loadTask Rename.Options.decode = .ok ⟨[]⟩) ∧
    (naming.toTask.load LocalOutput.Naming.shape = .ok naming ∧
      naming.toTask.loadTask LocalOutput.Naming.decode = .ok naming) ∧
    reader.Begun [] fields (reader.fileInput.transaction config) (reader.transaction config) ∧
    ∃ q w', (reader.transaction config).Calls default q w' ∧
      ∃ t, q.task.loadTask FileBasedInputTask.decode = .ok t ∧
        t.fileInputTask.loadTask LocalInput.Files.decode = .ok ⟨[], none⟩ ∧
          t.parserTask.loadTask Ltsv.Options.decode = .ok options := by
  intro fields options records naming config reader
  obtain ⟨⟨ltsv, csv, rename, names⟩, -, -, -, ⟨reads, -⟩, -⟩ := frozen_tasks_load_back
  have loaded : fields.load Ltsv.Options.shape = .ok options := by rfl
  have loaded' : Document.empty.load Csv.Options.shape = .ok records := by rfl
  have loaded'' : Document.empty.load Rename.Options.shape = .ok ⟨[]⟩ := by rfl
  have named : naming.toTask.load LocalOutput.Naming.shape = .ok naming := by rfl
  have searched : config.load LocalInput.Search.shape = .ok ⟨"logs/", none⟩ := by rfl
  have listed : (LocalInput.list ⟨"logs/", none⟩ (default : World).disk).1 = .ok [] := by
    have nothing : (LocalInput.list ⟨"logs/", none⟩ (default : World).disk).1.toOption = some [] := by
      decide +kernel
    cases found : (LocalInput.list ⟨"logs/", none⟩ (default : World).disk).1 with
    | error e =>
      rw [found] at nothing
      cases nothing
    | ok files =>
      rw [found] at nothing
      exact congrArg Except.ok (Option.some.inj nothing)
  have begun : reader.Begun [] fields (reader.fileInput.transaction config)
      (reader.transaction config) := .fresh rfl rfl
  refine ⟨⟨loaded, ltsv _ _ loaded⟩, ⟨loaded', csv _ _ loaded'⟩, ⟨loaded'', rename _ _ loaded''⟩,
    ⟨named, names _ _ named⟩, begun, ?_⟩
  obtain ⟨w', asks⟩ := LocalInput.calls_of_listed searched listed
  let schema : Schema := ⟨[⟨0, "host", .string⟩, ⟨1, "at", .timestamp⟩], rfl⟩
  let found : LocalInput.Files := ⟨[], none⟩
  let frozen : FileBasedInputTask := ⟨[], fields, found.toTask, [], options.toTask⟩
  have calls : (reader.transaction config).Calls default ⟨frozen.toTask, schema, 0⟩ w' :=
    begun.eq_around ▸ FileBasedInput.around_calls.mpr
      ⟨frozen, rfl, .intro asks (.all () _) ⟨_, rfl⟩ rfl rfl⟩
  obtain ⟨t, read, ⟨search, f, again, files, last, filesRead⟩, o, again', optionsRead⟩ :=
    reads reader rfl rfl config _ _ _ calls
  obtain rfl : frozen = t := Except.ok.inj (frozen.loadTask_toTask.symm.trans read)
  obtain rfl := Except.ok.inj (searched.symm.trans again)
  obtain rfl : options = o := Except.ok.inj (loaded.symm.trans again')
  obtain rfl : found = f := by
    obtain ⟨found', last'⟩ := f
    obtain rfl : [] = found' := Except.ok.inj (listed.symm.trans files)
    exact congrArg _ last.symm
  exact ⟨_, w', calls, frozen, read, filesRead, optionsRead⟩

end BulkTransfer
