import BulkTransfer.Proofs.Plugin.Codecs
import BulkTransfer.Proofs.Plugin.Frozen
import BulkTransfer.Proofs.Plugin.Nesting
import BulkTransfer.Rehearsal.Plugins
/-!
# Decoders and encoders compose in the order of the config

A file-based input and a file-based output ask for their tasks once all of their parts have called their
controls, with a list in which every decoder or encoder has its own task. When such a task is run, the
parser reads the bytes of the files after the first decoder, then the second, and so on, and the files get
the bytes of the formatter after the first encoder, then the second, and so on.
-/
namespace BulkTransfer

open Program (ofAction)

variable {w w' : World} {schema : Schema}

section Input

variable {i : FileBasedInput} {configs : List Config} {parserConfig : Config}
  {outer : Transaction FileInputRequest (List Report) Report}
  {tran : Transaction InputRequest (List Report) Report} {t : FileBasedInputTask} {count : Nat}

namespace FileBasedInput

/-- The transaction of a file-based input is begun with its config, or resumed with a task that it has left,
and that of its file input with it. -/
inductive Begun (i : FileBasedInput) : List Config → Config →
    Transaction FileInputRequest (List Report) Report →
      Transaction InputRequest (List Report) Report → Prop where
  | fresh {config parserConfig : Config} {configs : List Config}
      (decoders : config.nestedList "decoders" = .ok configs)
      (parser : nestedRequired config "parser" = .ok parserConfig) :
      i.Begun configs parserConfig (i.fileInput.transaction config) (i.transaction config)
  | resumed {task : Task} {t : FileBasedInputTask} (saved : FileBasedInputTask.ofTask task = .ok t)
      (schema : Schema) (count : Nat) :
      i.Begun t.decoderConfigs t.parserConfig (i.fileInput.resume t.fileInputTask count)
        (i.resume task schema count)

theorem Begun.eq_around (begun : i.Begun configs parserConfig outer tran) :
    tran = i.around configs parserConfig outer := by
  cases begun with
  | fresh decoders parser => simp only [transaction, decoders, parser]; rfl
  | resumed saved => simp only [resume, saved]

/-- The file input, then each of the decoders, then the parser call their controls, each inside those
before it. What they ask for makes the task. -/
inductive Freezes (i : FileBasedInput) (configs : List Config) (parserConfig : Config)
    (outer : Transaction FileInputRequest (List Report) Report) (w : World) (t : FileBasedInputTask)
    (schema : Schema) (count : Nat) (w' : World) : Prop where
  | intro {w₁ w₂ : World} (fileInput : outer.Calls w ⟨t.fileInputTask, count⟩ w₁)
      (decoders : Freeze DecoderPlugin.transaction (i.decoders.zip configs) w₁ t.decoderTasks [] w₂)
      (parser : (i.parser.transaction parserConfig).Calls w₂ ⟨t.parserTask, schema⟩ w')
      (decoderConfigs : t.decoderConfigs = configs) (parserConfigs : t.parserConfig = parserConfig)

theorem around_calls {q : InputRequest} : (i.around configs parserConfig outer).Calls w q w' ↔
    ∃ t, q.task = t.toTask ∧ i.Freezes configs parserConfig outer w t q.schema q.taskCount w' := by
  simp only [around, Transaction.nest_calls, Transaction.collecting_calls, nestStages_calls,
    Transaction.call_calls]
  constructor
  · rintro ⟨request, w₁, fileInput, tasks, w₂, decoders, parsed, _, parser, rfl, rfl⟩
    exact ⟨_, rfl, .intro fileInput decoders parser rfl rfl⟩
  · rintro ⟨t, same, @⟨w₁, w₂, fileInput, decoders, parser, rfl, rfl⟩⟩
    refine ⟨_, w₁, fileInput, t.decoderTasks, w₂, decoders, _, w', parser, ?_, rfl⟩
    cases q
    cases same
    rfl

/-- The decoders, each with its own task. -/
abbrev decodersOf (i : FileBasedInput) (t : FileBasedInputTask) : List (DecoderPlugin × Task) :=
  i.decoders.zip t.decoderTasks

/-- How a task of the input is run: the parser reads the files through the decoders, each opened with its
own task, or something could not be opened. -/
inductive Runs (i : FileBasedInput) (t : FileBasedInputTask) (schema : Schema) (index : Nat) :
    Feed (Except RunFault Report) → Prop where
  | behind {input input' : FileInput} (opened : i.fileInput.openTask t.fileInputTask index = .ok input)
      (decoders : Through ((i.decodersOf t).map DecoderPlugin.Opens) input input') :
      i.Runs t schema index ((i.parser.run t.parserTask schema input').andThen fun parsed =>
        ofAction (settle input' parsed))
  | unopened {e : PluginError} (refused : i.fileInput.openTask t.fileInputTask index = .error e) :
      i.Runs t schema index (.done (.error (.failed e)))
  | undecoded {input middle : FileInput} {first behind : List (DecoderPlugin × Task)}
      {x : DecoderPlugin × Task} {e : PluginError}
      (opened : i.fileInput.openTask t.fileInputTask index = .ok input)
      (decoders : i.decodersOf t = first ++ x :: behind)
      (through : Through (first.map DecoderPlugin.Opens) input middle)
      (refused : x.1.openTask x.2 middle = .error e) : i.Runs t schema index (.done (.error (.failed e)))

theorem run_runs (t : FileBasedInputTask) (schema : Schema) (index : Nat) :
    i.Runs t schema index (i.run t.toTask schema index) := by
  have saved := FileBasedInputTask.ofTask_toTask t
  cases opened : i.fileInput.openTask t.fileInputTask index with
  | error e =>
    have fails : i.openInput t index = .error e := by rw [openInput, opened]
    simp only [run, saved, fails]
    exact .unopened opened
  | ok input =>
    have opening : i.openInput t index = openDecoders (i.decodersOf t) input := by
      rw [openInput, opened]
    cases decoded : openDecoders (i.decodersOf t) input with
    | error e =>
      simp only [run, saved, opening, decoded]
      obtain ⟨first, x, behind, middle, decoders, through, refused⟩ := openDecoders_error decoded
      exact .undecoded opened decoders through refused
    | ok input' =>
      rw [run_opened schema saved (opening.trans decoded)]
      exact .behind opened (openDecoders_ok.mp decoded)

/-- The decoders of a task are in order: each has its own task, and the parser reads what passes the first
of them, then the second, and so on. -/
structure DecodesInOrder (i : FileBasedInput) (configs : List Config) (t : FileBasedInputTask) : Prop where
  own : OwnTasks DecoderPlugin.transaction i.decoders configs t.decoderTasks
  runs : ∀ schema index, i.Runs t schema index (i.run t.toTask schema index)
  reads : ∀ {input input' : FileInput}, Through ((i.decodersOf t).map DecoderPlugin.Opens) input input' →
    ∀ streams, input'.Reads streams → input.ReadsThrough (i.decodersOf t) streams

theorem Freezes.decodesInOrder (frozen : i.Freezes configs parserConfig outer w t schema count w')
    (paired : configs.length = i.decoders.length) : i.DecodesInOrder configs t where
  own := by
    obtain ⟨-, decoders, -, -, -⟩ := frozen
    exact decoders.ownTasks paired
  runs := run_runs t
  reads opened _ reads := reads.through opened

end FileBasedInput

end Input

section Output

variable {o : FileBasedOutput} {configs : List Config} {formatterConfig : Config}
  {outer : Transaction Task (List Report) Report} {tran : Transaction Task (List Report) Report}
  {t : FileBasedOutputTask}

namespace FileBasedOutput

/-- The transaction of a file-based output is begun with its config, or resumed with a task that it has left,
and that of its file output with it. -/
inductive Begun (o : FileBasedOutput) (schema : Schema) : List Config → Config →
    Transaction Task (List Report) Report → Transaction Task (List Report) Report → Prop where
  | fresh {config formatterConfig : Config} {configs : List Config}
      (encoders : config.nestedList "encoders" = .ok configs)
      (formatter : nestedRequired config "formatter" = .ok formatterConfig) (count : Nat) :
      o.Begun schema configs formatterConfig (o.fileOutput.transaction config count)
        (o.transaction config schema count)
  | resumed {task : Task} {t : FileBasedOutputTask} (saved : FileBasedOutputTask.ofTask task = .ok t)
      (count : Nat) : o.Begun schema t.encoderConfigs t.formatterConfig
        (o.fileOutput.resume t.fileOutputTask count) (o.resume task schema count)

theorem Begun.eq_around (begun : o.Begun schema configs formatterConfig outer tran) :
    tran = o.around configs formatterConfig schema outer := by
  cases begun with
  | fresh encoders formatter => simp only [transaction, encoders, formatter]; rfl
  | resumed saved => simp only [resume, saved]

/-- The file output, then each of the encoders, then the formatter call their controls, each inside those
before it. What they ask for makes the task. -/
inductive Freezes (o : FileBasedOutput) (configs : List Config) (formatterConfig : Config) (schema : Schema)
    (outer : Transaction Task (List Report) Report) (w : World) (t : FileBasedOutputTask) (w' : World) :
    Prop where
  | intro {w₁ w₂ : World} (fileOutput : outer.Calls w t.fileOutputTask w₁)
      (encoders : Freeze EncoderPlugin.transaction (o.encoders.zip configs) w₁ t.encoderTasks [] w₂)
      (formatter : (o.formatter.transaction formatterConfig schema).Calls w₂ t.formatterTask w')
      (encoderConfigs : t.encoderConfigs = configs) (formatterConfigs : t.formatterConfig = formatterConfig)

theorem around_calls {task : Task} : (o.around configs formatterConfig schema outer).Calls w task w' ↔
    ∃ t, task = t.toTask ∧ o.Freezes configs formatterConfig schema outer w t w' := by
  simp only [around, Transaction.nest_calls, Transaction.collecting_calls, nestStages_calls,
    Transaction.call_calls]
  constructor
  · rintro ⟨fileOutputTask, w₁, fileOutput, tasks, w₂, encoders, formatterTask, _, formatter, rfl, rfl⟩
    exact ⟨_, rfl, .intro fileOutput encoders formatter rfl rfl⟩
  · rintro ⟨t, rfl, @⟨w₁, w₂, fileOutput, encoders, formatter, rfl, rfl⟩⟩
    exact ⟨_, w₁, fileOutput, t.encoderTasks, w₂, encoders, _, w', formatter, rfl, rfl⟩

/-- The encoders, each with its own task. -/
abbrev encodersOf (o : FileBasedOutput) (t : FileBasedOutputTask) : List (EncoderPlugin × Task) :=
  o.encoders.zip t.encoderTasks

/-- What a task of the output is opened with: the formatter writes the files through the encoders, each
opened with its own task, or something could not be opened. -/
inductive OpensTask (o : FileBasedOutput) (t : FileBasedOutputTask) (schema : Schema) (index : Nat) :
    Attempt PageOutput → Prop where
  | before {files outermost : FileOutput} (opened : o.fileOutput.openTask t.fileOutputTask index = .ok files)
      (encoders : Through ((o.encodersOf t).map EncoderPlugin.Opens) outermost files) :
      o.OpensTask t schema index (o.formatter.openTask t.formatterTask schema outermost)
  | unopened {e : PluginError} (refused : o.fileOutput.openTask t.fileOutputTask index = .error e) :
      o.OpensTask t schema index (.error e)
  | unencoded {files middle : FileOutput} {first behind : List (EncoderPlugin × Task)}
      {x : EncoderPlugin × Task} {e : PluginError}
      (opened : o.fileOutput.openTask t.fileOutputTask index = .ok files)
      (encoders : o.encodersOf t = first ++ x :: behind)
      (through : Through (behind.map EncoderPlugin.Opens) middle files)
      (refused : x.1.openTask x.2 middle = .error e) : o.OpensTask t schema index (.error e)

theorem openTask_opens (t : FileBasedOutputTask) (schema : Schema) (index : Nat) :
    o.OpensTask t schema index (o.openTask t.toTask schema index) := by
  have saved := FileBasedOutputTask.ofTask_toTask t
  cases opened : o.fileOutput.openTask t.fileOutputTask index with
  | error e =>
    simp only [openTask, saved, opened]
    exact .unopened opened
  | ok files =>
    cases encoded : openEncoders (o.encodersOf t) files with
    | error e =>
      simp only [openTask, saved, opened, encoded]
      obtain ⟨first, x, behind, middle, encoders, through, refused⟩ := openEncoders_error encoded
      exact .unencoded opened encoders through refused
    | ok outermost =>
      simp only [openTask, saved, opened, encoded]
      exact .before opened (openEncoders_ok.mp encoded)

/-- The encoders of a task are in order: each has its own task, and what the formatter makes of pages passes
the first of them, then the second, and so on, to the files. -/
structure EncodesInOrder (o : FileBasedOutput) (configs : List Config) (t : FileBasedOutputTask) : Prop where
  own : OwnTasks EncoderPlugin.transaction o.encoders configs t.encoderTasks
  opens : ∀ schema index, o.OpensTask t schema index (o.openTask t.toTask schema index)
  writes : ∀ {outermost files : FileOutput},
    Through ((o.encodersOf t).map EncoderPlugin.Opens) outermost files →
      ∀ schema pages F, o.formatter.openTask t.formatterTask schema outermost = .ok pages →
        o.formatter.Formats t.formatterTask schema F → ∀ told, pages.Hears told →
          ∃ calls, F told calls ∧ files.HearsThrough (o.encodersOf t) calls

theorem Freezes.encodesInOrder (frozen : o.Freezes configs formatterConfig schema outer w t w')
    (paired : configs.length = o.encoders.length) : o.EncodesInOrder configs t where
  own := by
    obtain ⟨-, encoders, -, -, -⟩ := frozen
    exact encoders.ownTasks paired
  opens := openTask_opens t
  writes := by
    intro outermost files opened schema pages F formatter formats told hears
    obtain ⟨calls, between, formatted⟩ := formats outermost pages formatter told hears
    exact ⟨calls, formatted, between.through opened⟩

end FileBasedOutput

end Output

/-- Begun or resumed, a file-based input and a file-based output ask for a task exactly when all of their parts
have called their controls, and what is then run with it reads through the decoders and writes through the
encoders in the order of the configs. -/
theorem codecs_compose_in_order {i : FileBasedInput} {o : FileBasedOutput} {schema : Schema}
    {decoderConfigs encoderConfigs : List Config} {parserConfig formatterConfig : Config}
    {fileInput : Transaction FileInputRequest (List Report) Report}
    {fileOutput writing : Transaction Task (List Report) Report}
    {reading : Transaction InputRequest (List Report) Report}
    (input : i.Begun decoderConfigs parserConfig fileInput reading)
    (decoders : decoderConfigs.length = i.decoders.length)
    (output : o.Begun schema encoderConfigs formatterConfig fileOutput writing)
    (encoders : encoderConfigs.length = o.encoders.length) :
    (∀ w q w', reading.Calls w q w' ↔ ∃ t, q.task = t.toTask ∧
      i.Freezes decoderConfigs parserConfig fileInput w t q.schema q.taskCount w') ∧
    (∀ w t schema count w', i.Freezes decoderConfigs parserConfig fileInput w t schema count w' →
      i.DecodesInOrder decoderConfigs t) ∧
    (∀ w task w', writing.Calls w task w' ↔ ∃ t, task = t.toTask ∧
      o.Freezes encoderConfigs formatterConfig schema fileOutput w t w') ∧
    ∀ w t w', o.Freezes encoderConfigs formatterConfig schema fileOutput w t w' →
      o.EncodesInOrder encoderConfigs t := by
  refine ⟨fun w q w' => ?_, fun _ _ _ _ _ frozen => frozen.decodesInOrder decoders, fun w task w' => ?_,
    fun _ _ _ frozen => frozen.encodesInOrder encoders⟩
  · rw [input.eq_around]
    exact FileBasedInput.around_calls
  · rw [output.eq_around]
    exact FileBasedOutput.around_calls

section Letters

def replacement (n m : Nat) : Task := ⟨[("from", .ofNat n), ("to", .ofNat m)]⟩

/-- The change of bytes that a task of a replacing decoder or encoder stands for. -/
def replaced (task : Task) (b : UInt8) : UInt8 :=
  let of (key : String) : Nat := (task.require key .count).toOption.getD 0
  if b.toNat = of "from" then UInt8.ofNat (of "to") else b

def letterSteps : List Config :=
  [⟨[("from", .str "a"), ("to", .str "b")]⟩, ⟨[("from", .str "b"), ("to", .str "c")]⟩]

def lettersConfig : Config :=
  ⟨[("decoders", docs letterSteps), ("parser", .obj []), ("encoders", docs letterSteps),
    ("formatter", .obj [])]⟩

/-- A file with an a and a b. -/
def letterFile : FileInput :=
  ⟨[.done (.ok [.ok [97], .ok [98]])], .done (.ok Document.empty), .done (), .done ()⟩

def letterInput : FileInputPlugin where
  transaction _ := Transaction.callThen ⟨Document.empty, 1⟩ fun _ => .done (.ok Document.empty)
  resume task count := Transaction.callThen ⟨task, count⟩ fun _ => .done (.ok Document.empty)
  cleanup _ _ _ := .done (.ok ())
  openTask _ _ := .ok letterFile

def letterParser : ParserPlugin where
  transaction config := Transaction.call ⟨config, Rehearsal.schema⟩ .done
  run _ _ _ := .done (.ok ())

/-- Keeps nothing of what it is told. -/
def unwritten : FileOutput where
  State := Unit
  sink := ⟨pure (), fun _ => pure (), pure (), pure Document.empty, pure (), pure ()⟩
  initial := ()

def letterOutput : FileOutputPlugin where
  transaction _ _ := Transaction.callThen Document.empty fun _ => .done (.ok Document.empty)
  resume task _ := Transaction.callThen task fun _ => .done (.ok Document.empty)
  cleanup _ _ _ := .done (.ok ())
  openTask _ _ := .ok unwritten

/-- Writes an a and a b for each page. -/
def letterFormatter : FormatterPlugin where
  transaction config _ := Transaction.call config .done
  openTask _ _ outer := .ok
    { State := outer.State
      sink := ⟨outer.sink.nextFile, fun _ => outer.sink.add [97, 98], outer.sink.finish, outer.sink.commit,
        outer.sink.abort, outer.sink.close⟩
      initial := outer.initial }

/-- What the formatter tells when it is told this. -/
def lettersFor : OutputCall PageOutputCall → OutputCall FileCall
  | .hand (.start answer) => .hand (.nextFile answer)
  | .hand (.add _ answer) => .hand (.add [97, 98] answer)
  | .finish answer => .finish answer
  | .commit answer => .commit answer
  | .abort => .abort
  | .close => .close

theorem letterFormatter_formats (task : Task) (schema : Schema) :
    letterFormatter.Formats task schema fun told calls => calls = told.map lettersFor := by
  rintro outer _ ⟨⟩ told ⟨s, trail⟩
  refine ⟨_, ⟨s, trail.renamed (r := outer.sink.Steps) lettersFor fun s call s' h => ?_⟩, rfl⟩
  match call with
  | .hand (.start _) | .hand (.add _ _) | .finish _ | .commit _ | .abort | .close => exact h

def letterReader : FileBasedInput := ⟨letterInput, [Rehearsal.decoder, Rehearsal.decoder], letterParser⟩

def letterWriter : FileBasedOutput := ⟨letterOutput, [Rehearsal.encoder, Rehearsal.encoder], letterFormatter⟩

def letterTasks : List Task := [replacement 97 98, replacement 98 99]

def letterReading : FileBasedInputTask :=
  ⟨letterSteps, Document.empty, Document.empty, letterTasks, Document.empty⟩

def letterWriting : FileBasedOutputTask :=
  ⟨letterSteps, Document.empty, Document.empty, letterTasks, Document.empty⟩

/-- The decoders and the encoders of these tasks open, and change bytes. -/
theorem letterTasks_replace : ∀ task ∈ letterTasks,
    (∀ input, Rehearsal.decoder.openTask task input = .ok (input.mapBytes (List.map (replaced task)))) ∧
      ∀ inner, Rehearsal.encoder.openTask task inner = .ok (inner.mapBytes (List.map (replaced task))) := by
  simp only [letterTasks, List.mem_cons, List.not_mem_nil, or_false, forall_eq_or_imp, forall_eq]
  exact ⟨⟨fun _ => rfl, fun _ => rfl⟩, fun _ => rfl, fun _ => rfl⟩

/-- What the first decoder or encoder has made of a letter the second one changes again. -/
theorem letters_pass_both_in_turn :
    letterReader.Begun letterSteps Document.empty (letterInput.transaction lettersConfig)
      (letterReader.transaction lettersConfig) ∧
    letterSteps.length = letterReader.decoders.length ∧
    letterWriter.Begun Rehearsal.schema letterSteps Document.empty (letterOutput.transaction lettersConfig 1)
      (letterWriter.transaction lettersConfig Rehearsal.schema 1) ∧
    letterSteps.length = letterWriter.encoders.length ∧
    (∃ w, (letterReader.transaction lettersConfig).Calls default
      ⟨letterReading.toTask, Rehearsal.schema, 1⟩ w) ∧
    letterReader.DecodesInOrder letterSteps letterReading ∧
    (∃ input, Through ((letterReader.decodersOf letterReading).map DecoderPlugin.Opens) letterFile input ∧
      ∀ streams, input.Reads streams → Stream.Hold streams [[99, 99]]) ∧
    (∃ w, (letterWriter.transaction lettersConfig Rehearsal.schema 1).Calls default letterWriting.toTask w) ∧
    letterWriter.EncodesInOrder letterSteps letterWriting ∧
    ∃ outermost pages,
      Through ((letterWriter.encodersOf letterWriting).map EncoderPlugin.Opens) outermost unwritten ∧
      letterFormatter.openTask Document.empty Rehearsal.schema outermost = .ok pages ∧
      ∀ page report, pages.Hears [.hand (.start (.ok ())), .hand (.add page (.ok ())), .finish (.ok ()),
          .commit (.ok report), .close] →
        ∃ handed, unwritten.Hears handed ∧ FileCall.Write handed [[99, 99]] := by
  have reads : letterReader.Begun letterSteps Document.empty (letterInput.transaction lettersConfig)
      (letterReader.transaction lettersConfig) := .fresh rfl rfl
  have writes : letterWriter.Begun Rehearsal.schema letterSteps Document.empty
      (letterOutput.transaction lettersConfig 1) (letterWriter.transaction lettersConfig Rehearsal.schema 1) :=
    .fresh rfl rfl 1
  have asked : letterReader.Freezes letterSteps Document.empty (letterInput.transaction lettersConfig) default
      letterReading Rehearsal.schema 1 _ :=
    .intro ⟨_, rfl⟩ (.goesOn ⟨_, rfl⟩ (.goesOn ⟨_, rfl⟩ (.all () _))) ⟨_, rfl⟩ rfl rfl
  have asked' : letterWriter.Freezes letterSteps Document.empty Rehearsal.schema
      (letterOutput.transaction lettersConfig 1) default letterWriting _ :=
    .intro ⟨_, rfl⟩ (.goesOn ⟨_, rfl⟩ (.goesOn ⟨_, rfl⟩ (.all () _))) ⟨_, rfl⟩ rfl rfl
  obtain ⟨reading, decodes, writing, encodes⟩ := codecs_compose_in_order reads rfl writes rfl
  have decoded := decodes _ _ _ _ _ asked
  have encoded := encodes _ _ _ asked'
  have opened : Through ((letterReader.decodersOf letterReading).map DecoderPlugin.Opens) letterFile _ :=
    ⟨_, rfl, _, rfl, rfl⟩
  have opened' : Through ((letterWriter.encodersOf letterWriting).map EncoderPlugin.Opens) _ unwritten :=
    ⟨_, rfl, _, rfl, rfl⟩
  refine ⟨reads, rfl, writes, rfl, ⟨_, (reading _ _ _).mpr ⟨_, rfl, asked⟩⟩, decoded, ⟨_, opened, ?_⟩,
    ⟨_, (writing _ _ _).mpr ⟨_, rfl, asked'⟩⟩, encoded, _, _, opened', rfl, ?_⟩
  · intro streams read
    have contracts : ∀ x ∈ letterReader.decodersOf letterReading, DecoderPlugin.Decodes x
        fun streams streams' => streams' = streams.map (Stream.mapBytes (List.map (replaced x.2))) := by
      rintro ⟨decoder, task⟩ mem
      obtain ⟨plugin, known⟩ := List.of_mem_zip mem
      obtain rfl : decoder = Rehearsal.decoder := by simpa [letterReader] using plugin
      exact DecoderPlugin.decodes_mapBytes (letterTasks_replace task known).1
    obtain ⟨before, files, -, contents⟩ := decoded.reads opened streams read _ contracts
    have file : Stream.Hold before [[97, 98]] := by
      cases files with
      | cons first rest =>
        cases first
        cases rest
        exact ⟨[[[97], [98]]], rfl, rfl⟩
    exact contents _ (fun x _ => Stream.mapBytes_hold (replaced x.2)) [[97, 98]] file
  · intro page report hears
    have contracts : ∀ x ∈ letterWriter.encodersOf letterWriting, EncoderPlugin.Encodes x
        fun calls handed => handed = calls.map (FileCall.mapBytes (List.map (replaced x.2))) := by
      rintro ⟨encoder, task⟩ mem
      obtain ⟨plugin, known⟩ := List.of_mem_zip mem
      obtain rfl : encoder = Rehearsal.encoder := by simpa [letterWriter] using plugin
      exact EncoderPlugin.encodes_mapBytes (letterTasks_replace task known).2
    obtain ⟨calls, rfl, through⟩ := encoded.writes opened' Rehearsal.schema _ _ rfl
      (letterFormatter_formats Document.empty Rehearsal.schema) _ hears
    obtain ⟨handed, heard, -, contents⟩ := through _ contracts
    exact ⟨handed, heard, contents _ (fun x _ => FileCall.mapBytes_write (replaced x.2)) [[97, 98]]
      ⟨[[[97, 98]]], report, rfl, rfl⟩⟩

end Letters

end BulkTransfer
