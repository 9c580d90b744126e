import BulkTransfer.Local.Input
import BulkTransfer.Local.Output
import BulkTransfer.Proofs.Ltsv.Reading
import BulkTransfer.Proofs.Transfer.Settling
/-!
# How a task settles its files

A file input is settled by the runner that has opened it, and a file output by the task whose output lies
over it. Both do so once everything that lies over the files is open. Until then nobody does: an input
whose decoder cannot be opened, and an output whose formatter fails after it has begun a file, are left as
they are.
-/
namespace BulkTransfer

open OutputCall (Hands Feeds)

variable {σ : Type} {pages : PageOutput}

/-- A task that writes pages into files. -/
structure FileWriting (pages : PageOutput) where
  run : TaskRun pages
  runner : FileBasedOutput
  parts : FileBasedOutputTask
  /-- What the file output has opened. -/
  files : FileOutput

namespace FileWriting

/-- The output of the task is the runner's, over a file output that is watched; who is involved passes on
what he is told. The input does not panic. -/
structure IsSound (x : FileWriting pages) : Prop where
  output : x.run.plan.output = x.runner.toOutputPlugin
  decodes : FileBasedOutputTask.ofTask x.run.plan.outputTask = .ok x.parts
  opens : x.runner.fileOutput.openTask x.parts.fileOutputTask x.run.index = .ok x.files.watched
  encoders : ∀ e ∈ x.runner.encoders, e.PassesOn
  formatter : x.runner.formatter.PassesOn
  filters : ∀ f ∈ x.run.plan.filters, f.Forwards
  calm : ∀ text, x.run.ran ≠ some (.error (.panicked text))

/-- All calls on the file output, as the output over it holds them in the end. -/
def calls (x : FileWriting pages) (above : pages.Over x.files.watched) :
    List (OutputCall FileCall) :=
  x.files.log (above.view x.run.ended.1.2)

variable {x : FileWriting pages}

theorem lies_over (sound : x.IsSound) : Nonempty (pages.Over x.files.watched) := by
  have opened := x.run.opens
  rw [sound.output] at opened
  exact FileBasedOutput.openTask_over sound.encoders sound.formatter sound.decodes sound.opens opened

/-- Opening the output begins files at most. -/
theorem opening_hands (above : pages.Over x.files.watched) :
    Hands (x.files.log (above.view x.run.opening.1.2)) := by
  obtain ⟨new, grown, hands⟩ :=
    (above.records x.files.log_records).start pages.initial x.run.world
  have blank : x.files.log (above.view pages.initial) = [] := congrArg Prod.snd above.initial
  dsimp only at grown
  rw [blank, List.nil_append] at grown
  exact grown ▸ hands

/-- A file output under an output that is open is settled and then closed. -/
theorem opened_settles (sound : x.IsSound) (above : pages.Over x.files.watched)
    (isOpen : x.run.IsOpen) : ∃ feeding settling, x.calls above = feeding ++ settling ∧
      Feeds False feeding ∧ ((∃ report, settling = [.commit (.ok report), .close]) ∨
        (∃ e, settling = [.commit (.error e), .abort, .close]) ∨ settling = [.abort, .close]) := by
  obtain ⟨fed, settling, grown, feeds, settled⟩ :=
    TaskRun.ended_logs (above.records x.files.log_records) sound.filters isOpen
  have panicked : ∀ text, x.run.reading.1.1 ≠ .error (.panicked text) :=
    fun text h => sound.calm text (TaskRun.ran_of_panicked isOpen h)
  refine ⟨_ ++ fed, settling, grown.trans (List.append_assoc ..).symm,
    (feeds.imp False.elim).after (opening_hands above), ?_⟩
  generalize x.run.reading.1.1 = reading at settled panicked
  generalize x.run.outcome = outcome at settled
  cases settled with
  | panicked text => exact absurd rfl (panicked text)
  | unread e => exact .inr (.inr rfl)
  | refused report e => exact .inr (.inl ⟨e, rfl⟩)
  | committed report outputReport => exact .inl ⟨outputReport, rfl⟩

/-- A file output under an output that could not be opened is left with what was begun. -/
theorem unopened_left (above : pages.Over x.files.watched) (failed : ¬ x.run.IsOpen) :
    Hands (x.calls above) := by
  cases opened : x.run.opening.1.1 with
  | ok _ => exact absurd opened failed
  | error e =>
    rw [calls, TaskRun.ended_unopened opened]
    exact opening_hands above

end FileWriting

/-- Files are settled by whoever has opened everything that lies over them. A file input whose decoders
are all open is committed, or aborted, or aborted after a commit that has failed, and then closed; so is a
file output under an output that is open. A file input behind a decoder that could not be opened, and a
file output under an output that could not be, are neither settled nor closed; what was begun stays. -/
theorem opened_files_are_settled (x : FileReading σ) (reads : x.IsSound) (y : FileWriting pages)
    (writes : y.IsSound) :
    (∀ input, x.decoded = .ok input →
      ∃ calls, x.log x.ended.2 = x.log x.world ++ calls ∧ InputSettled x.ended.1.1 calls) ∧
    (∀ e, x.decoded = .error e →
      x.log x.ended.2 = x.log x.world ∧ x.ended.1.1 = .error (.failed e)) ∧
    Nonempty (pages.Over y.files.watched) ∧ ∀ above : pages.Over y.files.watched,
      (y.run.IsOpen → ∃ feeding settling, y.calls above = feeding ++ settling ∧
        Feeds False feeding ∧ ((∃ report, settling = [.commit (.ok report), .close]) ∨
          (∃ e, settling = [.commit (.error e), .abort, .close]) ∨ settling = [.abort, .close])) ∧
      (¬ y.run.IsOpen → Hands (y.calls above)) := by
  refine ⟨fun _ opened => x.decoded_settles reads opened, fun _ failed => x.undecoded_left reads failed,
    y.lies_over writes, fun above => ⟨y.opened_settles writes above, y.unopened_left above⟩⟩

theorem Rehearsal.decoder_passesOn : Rehearsal.decoder.PassesOn := by
  intro task inner outer opened log h
  obtain ⟨f, -, made⟩ := Attempt.of_bind opened
  cases made
  exact FileInput.mapBytes_records h f

theorem Rehearsal.encoder_passesOn : Rehearsal.encoder.PassesOn := by
  intro task inner outer opened
  simp only [Rehearsal.encoder] at opened
  split at opened
  · cases opened
    exact ⟨inner.mapBytes_over _⟩
  · cases opened

section Rehearsed

/-- Sevens are written, and read, as eights. -/
def sevenToEight : Task := (Document.empty.set "from" (.ofNat 55)).set "to" (.ofNat 56)

/-- A file input that leaves a note of each call. -/
def notedInput : FileInput where
  files := [.done (.ok [.ok (Utf8.encode "id:7\n")])]
  commit := (Program.note none "commit").andThen fun () => .done (.ok Document.empty)
  abort := Program.note none "abort"
  close := Program.note none "close"

def inputCall? (n : Note) : Option InputCall :=
  if n.text = "commit" then some (.commit (.ok Document.empty))
  else if n.text = "abort" then some .abort
  else if n.text = "close" then some .close
  else none

def notedCalls (w : World) : List InputCall := w.notes.toList.filterMap inputCall?

theorem notedCalls_note (w : World) (text : String) {call : InputCall}
    (tells : inputCall? ⟨none, text⟩ = some call) :
    notedCalls ((Program.note none text : Action Unit).run w).2 = notedCalls w ++ [call] := by
  change (w.notes.push ⟨none, text⟩).toList.filterMap inputCall? = _
  rw [Array.toList_push, List.filterMap_append]
  simp [tells, notedCalls]

theorem notedInput_records : notedInput.Records notedCalls where
  files := by
    intro opening hm w
    rw [List.mem_singleton.mp hm]
    rfl
  commit w := notedCalls_note w "commit" rfl
  abort w := notedCalls_note w "abort" rfl
  close w := notedCalls_note w "close" rfl

/-- A file behind a decoder, which is parsed line by line. -/
def reread : FileReading Unit where
  runner := ⟨{ LocalInput.plugin with openTask := fun _ _ => .ok notedInput },
    [Rehearsal.decoder], Ltsv.parser⟩
  task := FileBasedInputTask.toTask ⟨[], Document.empty, Document.empty, [sevenToEight], Document.empty⟩
  parts := ⟨[], Document.empty, Document.empty, [sevenToEight], Document.empty⟩
  schema := Rehearsal.schema
  index := 0
  input := notedInput
  log := notedCalls
  chain := (PageOutput.answering (.ok ()) (.ok Document.empty)).sink.asChain
  start := ()
  world := default

theorem reread_sound : reread.IsSound where
  decodes := rfl
  opens := rfl
  records := notedInput_records
  decoders := by
    intro d hm
    rw [List.mem_singleton.mp hm]
    exact Rehearsal.decoder_passesOn
  parser := Ltsv.parser_onlyReads fun _ _ _ => rfl
  chain _ _ _ := rfl

def localFiles : FileOutput := ⟨LocalOutput.Writing, LocalOutput.sink ⟨"o", "csv"⟩ 0, .blank⟩

def headedOptions : Csv.Options := ⟨",", true, "", .lf, []⟩

def replacedFiles : FileOutput :=
  localFiles.watched.mapBytes (List.map fun b => if b.toNat = 55 then UInt8.ofNat 56 else b)

/-- Records with a header, over an encoder and local files that are watched. -/
def headedPages : PageOutput :=
  ⟨replacedFiles.State, Csv.pageSink headedOptions ⟨',', .lf⟩ Rehearsal.schema replacedFiles.sink,
    replacedFiles.initial⟩

def headedOver : headedPages.Over localFiles.watched :=
  ⟨id, rfl, fun h => Csv.pageSink_records ((localFiles.watched.mapBytes_over _).records h) _ _ _⟩

def headedRunner : FileBasedOutput :=
  ⟨{ LocalOutput.plugin with openTask := fun _ _ => .ok localFiles.watched }, [Rehearsal.encoder],
    Csv.formatter⟩

def headedParts : FileBasedOutputTask :=
  ⟨[], Document.empty, Document.empty, [sevenToEight], headedOptions.toTask⟩

/-- A task that writes a header and a record through the encoder into a local file. -/
def headed (world : World) : FileWriting headedPages where
  run :=
    { plan :=
        { input := Rehearsal.input {}
          inputTask := Document.empty.set "rows" (.ofInt 1)
          inputSchema := Rehearsal.schema
          filters := []
          output := headedRunner.toOutputPlugin
          outputTask := headedParts.toTask
          outputSchema := Rehearsal.schema }
      index := 0
      world
      opens := rfl }
  runner := headedRunner
  parts := headedParts
  files := localFiles

theorem headed_sound (world : World)
    (calm : ∀ text, (headed world).run.ran ≠ some (.error (.panicked text))) :
    (headed world).IsSound where
  output := rfl
  decodes := rfl
  opens := rfl
  encoders := by
    intro e hm
    rw [List.mem_singleton.mp hm]
    exact Rehearsal.encoder_passesOn
  formatter := Csv.formatter_passesOn
  filters _ hm := absurd hm List.not_mem_nil
  calm := calm

/-- A file is read behind a decoder, and a file is written behind an encoder; both are settled. -/
theorem rehearsed_files_are_settled :
    (∃ calls, notedCalls reread.ended.2 = notedCalls default ++ calls ∧
      InputSettled reread.ended.1.1 calls) ∧
    ∃ feeding settling, (headed default).calls headedOver = feeding ++ settling ∧
      Feeds False feeding ∧ ((∃ report, settling = [.commit (.ok report), .close]) ∨
        (∃ e, settling = [.commit (.error e), .abort, .close]) ∨ settling = [.abort, .close]) := by
  have decoded : ∃ input, reread.decoded = .ok input := ⟨_, rfl⟩
  have gives : ((headed default).run.ran.bind Except.toOption).isSome := by decide +kernel
  have calm : ∀ text, (headed default).run.ran ≠ some (.error (.panicked text)) := by
    intro text panicked
    simp [panicked, Except.toOption] at gives
  obtain ⟨input, opened⟩ := decoded
  obtain ⟨reads, -, -, writes⟩ :=
    opened_files_are_settled reread reread_sound (headed default) (headed_sound default calm)
  exact ⟨reads input opened, (writes headedOver).1 rfl⟩

/-- A disk on which files can be made but not written. -/
def unwritable : World := .ofDisk { Disk.empty with
  refusal := fun _ a => match a with
    | .append _ => some .noSpace
    | _ => none }

/-- A header that cannot be written leaves the file open, and leaves it behind. -/
theorem refused_header_leaves_file :
    (¬ ∀ {pages : PageOutput} (x : FileWriting pages), x.IsSound →
      ∀ above : pages.Over x.files.watched, .hand (.nextFile (.ok ())) ∈ x.calls above →
        ∃ calls, x.calls above = calls ++ [.close]) ∧
      (headed unwritable).run.ended.2.disk.node? ["o000.00.csv.tmp"] = some (.file []) := by
  refine ⟨fun claimed => ?_, by decide +kernel⟩
  have failed : (headed unwritable).run.opening.1.1 = .error (.io .noSpace) := rfl
  have unopened : ¬ (headed unwritable).run.IsOpen := fun isOpen => nomatch failed.symm.trans isOpen
  have sound := headed_sound unwritable fun _ panicked => nomatch show none = some _ from panicked
  have hands := (headed unwritable).unopened_left headedOver unopened
  have begun : .hand (.nextFile (.ok ())) ∈ (headed unwritable).calls headedOver := .head _
  obtain ⟨calls, closed⟩ := claimed (headed unwritable) sound headedOver begun
  obtain ⟨data, same⟩ := hands .close (by simp [closed])
  cases same

end Rehearsed

end BulkTransfer
