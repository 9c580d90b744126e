import BulkTransfer.Csv.Formatter
import BulkTransfer.Plugin.FileBased
import BulkTransfer.Proofs.Plugin.Calls
import BulkTransfer.Proofs.Plugin.Opening
import BulkTransfer.Proofs.Plugin.Sink
/-!
# Calls on files

The file input of a task and its file output are behind others that change the bytes on their way. What
lies over a file output passes on to it what it is told itself, and what lies over a file input leaves it
to settle the input. A file input that was opened with all its decoders is committed or aborted, and then
closed.
-/
namespace BulkTransfer

open OutputCall (Hands Feeds)

variable {σ α D : Type}

section Outputs

/-- The file sink keeps a log: a new file and the bytes of files are data, and the other calls are what
they are. -/
structure FileSink.Records (k : FileSink σ) (log : σ → List (OutputCall D)) : Prop where
  nextFile : k.nextFile.attempt.Logs log fun _ new => Hands new
  add : ∀ data, (k.add data).attempt.Logs log fun _ new => Hands new
  finish : k.finish.attempt.Logs log fun answer => Feeds (answer = .ok ())
  commit : k.commit.attempt.Logs log fun answer new => new = [.commit answer]
  abort : k.abort.Logs log fun _ new => new = [.abort]
  close : k.close.Logs log fun _ new => new = [.close]

/-- The file sink with a list of all calls on it. -/
def FileSink.watched (k : FileSink σ) : FileSink (σ × List (OutputCall FileCall)) where
  nextFile := ExceptT.mk (SureCall.noted (fun answer => .hand (.nextFile answer)) k.nextFile.attempt)
  add data := ExceptT.mk (SureCall.noted (fun answer => .hand (.add data answer)) (k.add data).attempt)
  finish := ExceptT.mk (SureCall.noted .finish k.finish.attempt)
  commit := ExceptT.mk (SureCall.noted .commit k.commit.attempt)
  abort := SureCall.noted (fun _ => .abort) k.abort
  close := SureCall.noted (fun _ => .close) k.close

def FileOutput.watched (o : FileOutput) : FileOutput :=
  ⟨o.State × List (OutputCall FileCall), o.sink.watched, (o.initial, [])⟩

theorem FileSink.watched_records (k : FileSink σ) : k.watched.Records Prod.snd where
  nextFile := (SureCall.noted_logs (fun answer => OutputCall.hand (FileCall.nextFile answer))
    k.nextFile.attempt).mono fun _ _ h => h ▸ OutputCall.hands_one _
  add data := (SureCall.noted_logs (fun answer => OutputCall.hand (FileCall.add data answer))
    (k.add data).attempt).mono fun _ _ h => h ▸ OutputCall.hands_one _
  finish := (SureCall.noted_logs OutputCall.finish k.finish.attempt).mono
    fun answer _ h => h ▸ OutputCall.feeds_finish answer
  commit := SureCall.noted_logs OutputCall.commit k.commit.attempt
  abort := SureCall.noted_logs (fun _ => OutputCall.abort) k.abort
  close := SureCall.noted_logs (fun _ => OutputCall.close) k.close

/-- The calls that a watched output has seen. -/
def FileOutput.log (o : FileOutput) : o.watched.State → List (OutputCall FileCall) := Prod.snd

theorem FileOutput.log_records (o : FileOutput) : o.watched.sink.Records o.log :=
  o.sink.watched_records

/-- One file output over another: it holds the state of the other in its own, and whatever log the other
keeps, it keeps it by its own calls. -/
structure FileOutput.Over (outer inner : FileOutput) where
  view : outer.State → inner.State
  initial : view outer.initial = inner.initial
  records : ∀ {D : Type} {log : inner.State → List (OutputCall D)}, inner.sink.Records log →
    outer.sink.Records fun s => log (view s)

/-- An output for pages over one for files. -/
structure PageOutput.Over (pages : PageOutput) (files : FileOutput) where
  view : pages.State → files.State
  initial : view pages.initial = files.initial
  records : ∀ {D : Type} {log : files.State → List (OutputCall D)}, files.sink.Records log →
    pages.sink.Records fun s => log (view s)

def FileOutput.Over.refl (o : FileOutput) : o.Over o := ⟨id, rfl, id⟩

def FileOutput.Over.trans {outer middle inner : FileOutput} (first : outer.Over middle)
    (second : middle.Over inner) : outer.Over inner :=
  ⟨fun s => second.view (first.view s), by rw [first.initial, second.initial],
    fun h => first.records (second.records h)⟩

def PageOutput.Over.trans {pages : PageOutput} {middle files : FileOutput}
    (first : pages.Over middle) (second : middle.Over files) : pages.Over files :=
  ⟨fun s => second.view (first.view s), by rw [first.initial, second.initial],
    fun h => first.records (second.records h)⟩

def EncoderPlugin.PassesOn (e : EncoderPlugin) : Prop :=
  ∀ task inner outer, e.openTask task inner = .ok outer → Nonempty (outer.Over inner)

def FormatterPlugin.PassesOn (f : FormatterPlugin) : Prop :=
  ∀ task schema files pages, f.openTask task schema files = .ok pages → Nonempty (pages.Over files)

/-- Changing the bytes on their way changes no call. -/
def FileOutput.mapBytes_over (o : FileOutput) (f : Bytes → Bytes) : (o.mapBytes f).Over o where
  view := id
  initial := rfl
  records h := ⟨h.nextFile, fun data => h.add (f data), h.finish, h.commit, h.abort, h.close⟩

theorem Csv.pageSink_records {k : FileSink σ} {log : σ → List (OutputCall D)} (h : k.Records log)
    (o : Options) (d : Dialect) (schema : Schema) : (pageSink o d schema k).Records log where
  start := by
    have header : (if o.hasHeader then k.add (Utf8.encode (headerText d schema)) else pure () :
        Call σ Unit).attempt.Logs log fun _ new => Hands new := by
      by_cases wanted : o.hasHeader
      · simp only [wanted, if_true]
        exact h.add _
      · simp only [wanted]
        exact (SureCall.Logs.pure (Except.ok ())).mono fun _ _ h => h.2 ▸ Hands.nil
    refine (Call.logs_bind h.nextFile fun _ => header).mono ?_
    rintro _ _ (⟨_, _, hands⟩ | ⟨_, first, second, rfl, hands, hands'⟩)
    · exact hands
    · exact hands.append hands'
  add page := by
    have text : (Call.ofAttempt (pageText o d schema page) : Call σ String).attempt.Logs log
        fun _ new => new = [] := (SureCall.Logs.pure _).mono fun _ _ h => h.2
    refine (Call.logs_bind text fun text => h.add (Utf8.encode text)).mono ?_
    rintro _ _ (⟨_, _, rfl⟩ | ⟨_, _, _, rfl, rfl, hands⟩)
    · exact Hands.nil
    · exact hands
  finish := h.finish
  commit := h.commit
  abort := h.abort
  close := h.close

theorem Csv.formatter_passesOn : Csv.formatter.PassesOn := by
  intro task schema files pages opened
  replace opened : openTask task schema files = .ok pages := opened
  rw [openTask] at opened
  cases made : sinkOf task schema files.sink with
  | error e => simp [made] at opened
  | ok sink =>
    rw [made] at opened
    cases opened
    obtain ⟨o, -, made⟩ := Attempt.of_bind made
    obtain ⟨d, -, made⟩ := Attempt.of_bind made
    cases made
    exact ⟨⟨id, rfl, fun h => Csv.pageSink_records h o d schema⟩⟩

namespace FileBasedOutput

theorem openEncoders_over {encoders : List (EncoderPlugin × Task)} {inner outer : FileOutput}
    (passOn : ∀ e ∈ encoders, e.1.PassesOn) (opened : openEncoders encoders inner = .ok outer) :
    Nonempty (outer.Over inner) := by
  induction encoders generalizing outer with
  | nil =>
    cases opened
    exact ⟨.refl inner⟩
  | cons e rest ih =>
    simp only [openEncoders] at opened
    cases wrapped : openEncoders rest inner with
    | error e => simp [wrapped] at opened
    | ok middle =>
      rw [wrapped] at opened
      obtain ⟨second⟩ := ih (fun other hm => passOn other (List.mem_cons_of_mem e hm)) wrapped
      obtain ⟨first⟩ := passOn e List.mem_cons_self _ _ _ opened
      exact ⟨first.trans second⟩

/-- What a file-based output has opened lies over what its file output has. -/
theorem openTask_over {o : FileBasedOutput} {task : Task} {t : FileBasedOutputTask}
    {schema : Schema} {index : Nat} {files : FileOutput} {pages : PageOutput}
    (encoders : ∀ e ∈ o.encoders, e.PassesOn) (formatter : o.formatter.PassesOn)
    (decoded : FileBasedOutputTask.ofTask task = .ok t)
    (base : o.fileOutput.openTask t.fileOutputTask index = .ok files)
    (opened : o.openTask task schema index = .ok pages) : Nonempty (pages.Over files) := by
  simp only [openTask, decoded, base] at opened
  cases wrapped : openEncoders (o.encoders.zip t.encoderTasks) files with
  | error e => simp [wrapped] at opened
  | ok outer =>
    rw [wrapped] at opened
    obtain ⟨second⟩ := openEncoders_over
      (fun e hm => encoders e.1 (List.of_mem_zip hm).1) wrapped
    obtain ⟨first⟩ := formatter _ _ _ _ opened
    exact ⟨first.trans second⟩

end FileBasedOutput

end Outputs

section Inputs

/-- A call that settles a file input, with its answer. -/
inductive InputCall where
  | commit (answer : Attempt Report)
  | abort
  | close

variable {log : World → List InputCall}

/-- The calls on the file input are told by the world; reading its files is none of them. -/
structure FileInput.Records (input : FileInput) (log : World → List InputCall) : Prop where
  files : ∀ opening ∈ input.files, ∀ w, log (opening.run w).2 = log w
  commit : ∀ w, log (input.commit.run w).2 = log w ++ [.commit (input.commit.run w).1]
  abort : ∀ w, log (input.abort.run w).2 = log w ++ [.abort]
  close : ∀ w, log (input.close.run w).2 = log w ++ [.close]

def DecoderPlugin.PassesOn (d : DecoderPlugin) : Prop :=
  ∀ task inner outer, d.openTask task inner = .ok outer →
    ∀ log, inner.Records log → outer.Records log

/-- Handing pages to the chain settles no file input. -/
def PageChain.Spares (c : PageChain σ) (log : World → List InputCall) : Prop :=
  ∀ page s w, log (((c.add page).attempt s).run w).2 = log w

/-- The parser reads the files and hands over pages, and does not settle the input itself. -/
def ParserPlugin.OnlyReads (p : ParserPlugin) (log : World → List InputCall) : Prop :=
  ∀ task schema (input : FileInput), input.Records log →
    ∀ {σ : Type} {c : PageChain σ}, c.Spares log →
      ∀ s w, log ((c.receive (p.run task schema input) s).run w).2 = log w

theorem FileInput.mapBytes_records {input : FileInput} (h : input.Records log)
    (f : Bytes → Bytes) : (input.mapBytes f).Records log where
  files := by
    intro opening hm w
    obtain ⟨inner, hi, rfl⟩ := List.mem_map.mp hm
    rw [Program.run_bind]
    exact h.files inner hi w
  commit := h.commit
  abort := h.abort
  close := h.close

/-- How a file input is settled, and what its runner tells then. -/
inductive InputSettled : Except RunFault Report → List InputCall → Prop where
  | unparsed (e : PluginError) : InputSettled (.error (.failed e)) [.abort, .close]
  | refused (e : PluginError) :
    InputSettled (.error (.failed e)) [.commit (.error e), .abort, .close]
  | committed (report : Report) : InputSettled (.ok report) [.commit (.ok report), .close]

theorem Program.ofAction_andThen {Q R β : Type} (p : Action α) (f : α → Action β) :
    (ofAction (p.andThen f) : Program Q R β) = (ofAction p).andThen fun a => ofAction (f a) := by
  induction p with
  | done a => rfl
  | step change next ih => simp only [andThen, ofAction, ih]
  | ask q next _ => cases q

namespace FileBasedInput

theorem openDecoders_records {decoders : List (DecoderPlugin × Task)} {inner outer : FileInput}
    (passOn : ∀ d ∈ decoders, d.1.PassesOn) (h : inner.Records log)
    (opened : openDecoders decoders inner = .ok outer) : outer.Records log := by
  induction decoders generalizing inner with
  | nil =>
    cases opened
    exact h
  | cons d rest ih =>
    simp only [openDecoders] at opened
    cases wrapped : d.1.openTask d.2 inner with
    | error e => simp [wrapped] at opened
    | ok middle =>
      rw [wrapped] at opened
      exact ih (fun other hm => passOn other (List.mem_cons_of_mem d hm))
        (passOn d List.mem_cons_self _ _ _ wrapped log h) opened

/-- What is left to do when it is known whether the input was committed. -/
def release (input : FileInput) (result : Attempt Report) : Action (Except RunFault Report) := do
  if let .error _ := result then input.abort
  input.close
  return result.mapError .failed

/-- What is done with a file input when it was parsed to an end. -/
def settle (input : FileInput) : Attempt Unit → Action (Except RunFault Report)
  | .ok () => do release input (← input.commit)
  | .error e => release input (.error e)

theorem release_run (input : FileInput) (result : Attempt Report) (w : World) :
    (release input result).run w = (result.mapError .failed, (input.close.run
      (match result with
        | .error _ => (input.abort.run w).2
        | .ok _ => w)).2) := by
  simp only [release]
  cases result <;> simp only [Program.run_bind] <;> rfl

theorem settle_records {input : FileInput} (h : input.Records log) (parsed : Attempt Unit)
    (w : World) : ∃ calls, log ((settle input parsed).run w).2 = log w ++ calls ∧
      InputSettled ((settle input parsed).run w).1 calls := by
  cases parsed with
  | error e =>
    refine ⟨[.abort, .close], ?_, ?_⟩
    · simp [settle, release_run, h.close, h.abort]
    · rw [settle, release_run]
      exact .unparsed e
  | ok _ =>
    have committed := h.commit w
    simp only [settle, Program.run_bind, release_run]
    cases told : (input.commit.run w).1 with
    | error e =>
      refine ⟨[.commit (.error e), .abort, .close], ?_, .refused e⟩
      simp [h.close, h.abort, committed, told]
    | ok report =>
      refine ⟨[.commit (.ok report), .close], ?_, .committed report⟩
      simp [h.close, committed, told]

theorem ofAction_release {Q R : Type} (input : FileInput) (result : Attempt Report) :
    (do
      if let .error _ := result then Program.ofAction input.abort
      Program.ofAction input.close
      return result.mapError .failed : Program Q R (Except RunFault Report)) =
      Program.ofAction (release input result) := by
  cases result with
  | error e =>
    change _ = Program.ofAction (input.abort.andThen fun _ => input.close.andThen fun _ => .done _)
    simp only [Program.ofAction_andThen]
    rfl
  | ok report =>
    change _ = Program.ofAction (input.close.andThen fun _ => .done _)
    rw [Program.ofAction_andThen]
    rfl

/-- Over an input that was opened whole, the runner parses and then settles. -/
theorem run_opened {i : FileBasedInput} {task : Task} {t : FileBasedInputTask} {index : Nat}
    {input : FileInput} (schema : Schema) (decoded : FileBasedInputTask.ofTask task = .ok t)
    (opened : i.openInput t index = .ok input) : i.run task schema index =
      (i.parser.run t.parserTask schema input).andThen fun parsed =>
        Program.ofAction (settle input parsed) := by
  simp only [run, decoded, opened]
  refine congrArg (Program.andThen _) (funext fun parsed => ?_)
  cases parsed with
  | error e => exact ofAction_release input (.error e)
  | ok _ =>
    rw [settle]
    refine Eq.trans ?_ (Program.ofAction_andThen ..).symm
    exact congrArg (Program.andThen _) (funext fun result => ofAction_release input result)

end FileBasedInput

/-- The files of a task that are read into a chain. -/
structure FileReading (σ : Type) where
  runner : FileBasedInput
  task : Task
  schema : Schema
  index : Nat
  parts : FileBasedInputTask
  /-- What the file input has opened. -/
  input : FileInput
  log : World → List InputCall
  chain : PageChain σ
  start : σ
  world : World

namespace FileReading

/-- Who is involved settles no file input but by the calls that are passed on to it. -/
structure IsSound (x : FileReading σ) : Prop where
  decodes : FileBasedInputTask.ofTask x.task = .ok x.parts
  opens : x.runner.fileInput.openTask x.parts.fileInputTask x.index = .ok x.input
  records : x.input.Records x.log
  decoders : ∀ d ∈ x.runner.decoders, d.PassesOn
  parser : x.runner.parser.OnlyReads x.log
  chain : x.chain.Spares x.log

def decoded (x : FileReading σ) : Attempt FileInput :=
  FileBasedInput.openDecoders (x.runner.decoders.zip x.parts.decoderTasks) x.input

/-- How the parser leaves the files. -/
def parsed (x : FileReading σ) (input : FileInput) : (Attempt Unit × σ) × World :=
  (x.chain.receive (x.runner.parser.run x.parts.parserTask x.schema input) x.start).run x.world

def ended (x : FileReading σ) : (Except RunFault Report × σ) × World :=
  (x.chain.receive (x.runner.run x.task x.schema x.index) x.start).run x.world

variable {x : FileReading σ}

theorem openInput_eq (sound : x.IsSound) : x.runner.openInput x.parts x.index = x.decoded := by
  simp only [FileBasedInput.openInput, sound.opens, decoded]

theorem ended_eq (sound : x.IsSound) {input : FileInput} (opened : x.decoded = .ok input) :
    let parsed := x.parsed input
    let settled := (FileBasedInput.settle input parsed.1.1).run parsed.2
    x.ended = ((settled.1, parsed.1.2), settled.2) := by
  have runs := FileBasedInput.run_opened x.schema sound.decodes
    ((openInput_eq sound).trans opened)
  simp only [ended, parsed, PageChain.receive, runs, Program.answered_andThen,
    Program.answered_ofAction, Program.run_andThen, Program.run_done]

/-- An input whose decoders are all open is settled. -/
theorem decoded_settles (sound : x.IsSound) {input : FileInput} (opened : x.decoded = .ok input) :
    ∃ calls, x.log x.ended.2 = x.log x.world ++ calls ∧ InputSettled x.ended.1.1 calls := by
  have records : input.Records x.log := FileBasedInput.openDecoders_records
    (fun d hm => sound.decoders d.1 (List.of_mem_zip hm).1) sound.records opened
  have reads : x.log (x.parsed input).2 = x.log x.world :=
    sound.parser _ _ input records sound.chain _ _
  obtain ⟨calls, grown, settled⟩ := FileBasedInput.settle_records records
    (x.parsed input).1.1 (x.parsed input).2
  rw [ended_eq sound opened]
  exact ⟨calls, by rw [grown, reads], settled⟩

/-- An input behind a decoder that could not be opened is told nothing. -/
theorem undecoded_left (sound : x.IsSound) {e : PluginError} (failed : x.decoded = .error e) :
    x.log x.ended.2 = x.log x.world ∧ x.ended.1.1 = .error (.failed e) := by
  have opening := (openInput_eq sound).trans failed
  simp only [ended, FileBasedInput.run, sound.decodes, opening]
  exact ⟨rfl, rfl⟩

/-- The runner has a report exactly when the file input was committed and gave it. -/
theorem report_iff_committed (sound : x.IsSound) :
    ∃ calls, x.log x.ended.2 = x.log x.world ++ calls ∧
      ∀ report, x.ended.1.1 = .ok report ↔ .commit (.ok report) ∈ calls := by
  cases opened : x.decoded with
  | error e =>
    obtain ⟨same, failed⟩ := undecoded_left sound opened
    exact ⟨[], by rw [same, List.append_nil], fun report => by simp [failed]⟩
  | ok input =>
    obtain ⟨calls, grown, settled⟩ := decoded_settles sound opened
    refine ⟨calls, grown, fun report => ?_⟩
    generalize x.ended.1.1 = result at *
    cases settled <;> simp [eq_comm]

end FileReading

end Inputs

end BulkTransfer
