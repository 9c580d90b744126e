import BulkTransfer.Proofs.Plugin.FileCalls
import BulkTransfer.Proofs.World.Trails
/-!
# Decoders and encoders in a row

Decoders are opened around the files of an input, the first one inmost, and encoders around an output for
files, the first one outermost. Either way the bytes pass the first of them first. What is read behind the
decoders is made of the files by each of them in turn, and what the output is told is made by the encoders
of what is told in front of them.
-/
namespace BulkTransfer

/-- What reading a file can give: its pieces in order, or why it could not be opened. -/
abbrev Stream := Attempt (List Poll)

/-- The files can be read like this. -/
def FileInput.Reads (input : FileInput) (streams : List Stream) : Prop :=
  List.Forall₂ Program.CanEnd input.files streams

/-- All files are read whole, and hold these bytes. -/
def Stream.Hold (streams : List Stream) (contents : List Bytes) : Prop :=
  ∃ files : List (List Bytes), streams = files.map (fun pieces => .ok (pieces.map .ok)) ∧
    contents = files.map List.flatten

section Decoders

/-- A decoder that is opened with its task around files makes these of them. -/
def DecoderPlugin.Opens (x : DecoderPlugin × Task) (input input' : FileInput) : Prop :=
  x.1.openTask x.2 input = .ok input'

/-- What can be read behind the decoder is made so of what can be read before it. -/
def DecoderPlugin.Decodes (x : DecoderPlugin × Task) (T : List Stream → List Stream → Prop) : Prop :=
  ∀ input input', Opens x input input' → ∀ streams', input'.Reads streams' →
    ∃ streams, input.Reads streams ∧ T streams streams'

variable {decoders : List (DecoderPlugin × Task)} {input input' : FileInput}
  {T : DecoderPlugin × Task → List Stream → List Stream → Prop} {streams' : List Stream}

theorem FileBasedInput.openDecoders_ok :
    openDecoders decoders input = .ok input' ↔ Through (decoders.map DecoderPlugin.Opens) input input' := by
  induction decoders generalizing input with
  | nil => simp [openDecoders, Through]
  | cons x rest ih =>
    rw [openDecoders, List.map_cons, through_cons]
    unfold DecoderPlugin.Opens at *
    cases x.1.openTask x.2 input with
    | error e => simp
    | ok wrapped => simp [ih]

/-- Decoders fail to open when one of them refuses what those before it have opened. -/
theorem FileBasedInput.openDecoders_error {e : PluginError}
    (refused : openDecoders decoders input = .error e) :
    ∃ before x behind middle, decoders = before ++ x :: behind ∧
      Through (before.map DecoderPlugin.Opens) input middle ∧ x.1.openTask x.2 middle = .error e := by
  induction decoders generalizing input with
  | nil => cases refused
  | cons x rest ih =>
    rw [openDecoders] at refused
    cases opened : x.1.openTask x.2 input with
    | error e' =>
      rw [opened] at refused
      cases refused
      exact ⟨[], x, rest, input, rfl, rfl, opened⟩
    | ok wrapped =>
      rw [opened] at refused
      obtain ⟨before, y, behind, middle, rfl, through, stops⟩ := ih refused
      exact ⟨x :: before, y, behind, middle, rfl, ⟨wrapped, opened, through⟩, stops⟩

theorem decoders_read (decodes : ∀ x ∈ decoders, DecoderPlugin.Decodes x (T x))
    (opened : Through (decoders.map DecoderPlugin.Opens) input input') (reads : input'.Reads streams') :
    ∃ streams, input.Reads streams ∧ Through (decoders.map T) streams streams' := by
  induction decoders generalizing input with
  | nil =>
    cases opened
    exact ⟨streams', reads, rfl⟩
  | cons x rest ih =>
    obtain ⟨between, first, behind⟩ := opened
    -- The first decoder lies inmost: what it has made is read by the others, which are asked before it.
    obtain ⟨middle, here, there⟩ := ih (fun y mem => decodes y (List.mem_cons_of_mem x mem)) behind
    obtain ⟨streams, before, made⟩ := decodes x List.mem_cons_self _ _ first middle here
    exact ⟨streams, before, middle, made, there⟩

/-- This is made by the decoders, one after the other, of what can be read of the files. Where each of them
makes of whole files certain other ones, they do so one after the other. -/
def FileInput.ReadsThrough (input : FileInput) (decoders : List (DecoderPlugin × Task))
    (streams' : List Stream) : Prop :=
  ∀ T : DecoderPlugin × Task → List Stream → List Stream → Prop,
    (∀ x ∈ decoders, DecoderPlugin.Decodes x (T x)) →
      ∃ streams, input.Reads streams ∧ Through (decoders.map T) streams streams' ∧
        ∀ B : DecoderPlugin × Task → List Bytes → List Bytes,
          (∀ x ∈ decoders, Simulates Stream.Hold (B x) (T x)) →
            ∀ contents, Stream.Hold streams contents →
              Stream.Hold streams' (decoders.foldl (fun contents x => B x contents) contents)

theorem FileInput.Reads.through (reads : input'.Reads streams')
    (opened : Through (decoders.map DecoderPlugin.Opens) input input') :
    input.ReadsThrough decoders streams' := by
  intro T decodes
  obtain ⟨streams, before, made⟩ := decoders_read decodes opened reads
  exact ⟨streams, before, made, fun B same contents => Simulates.through same streams streams' contents made⟩

end Decoders

section Encoders

variable {σ : Type}

/-- The file sink can answer the call so. -/
def FileSink.Steps (k : FileSink σ) (s : σ) (call : OutputCall FileCall) (s' : σ) : Prop :=
  match call with
  | .hand (.nextFile answer) => (k.nextFile.attempt s).CanEnd (answer, s')
  | .hand (.add data answer) => ((k.add data).attempt s).CanEnd (answer, s')
  | .finish answer => (k.finish.attempt s).CanEnd (answer, s')
  | .commit answer => (k.commit.attempt s).CanEnd (answer, s')
  | .abort => (k.abort s).CanEnd ((), s')
  | .close => (k.close s).CanEnd ((), s')

/-- From its beginning the output can be told this. -/
def FileOutput.Hears (output : FileOutput) (calls : List (OutputCall FileCall)) : Prop :=
  ∃ s, Trail output.sink.Steps output.initial calls s

/-- The bytes of files, handed over piece by piece and file by file, and then committed. -/
def FileCall.whole (files : List (List Bytes)) (report : Report) : List (OutputCall FileCall) :=
  files.flatMap (fun pieces =>
    .hand (.nextFile (.ok ())) :: pieces.map fun data => .hand (.add data (.ok ()))) ++
      [.finish (.ok ()), .commit (.ok report), .close]

/-- Files with these bytes are written whole. -/
def FileCall.Write (calls : List (OutputCall FileCall)) (contents : List Bytes) : Prop :=
  ∃ files report, calls = whole files report ∧ contents = files.map List.flatten

/-- What an output for pages is told when it is opened, and when pages are handed over. -/
inductive PageOutputCall where
  | start (answer : Attempt Unit)
  | add (page : Page) (answer : Attempt Unit)

/-- The sink of pages can answer the call so. -/
def PageSink.Steps (k : PageSink σ) (s : σ) (call : OutputCall PageOutputCall) (s' : σ) : Prop :=
  match call with
  | .hand (.start answer) => (k.start.attempt s).CanEnd (answer, s')
  | .hand (.add page answer) => ((k.add page).attempt s).CanEnd (answer, s')
  | .finish answer => (k.finish.attempt s).CanEnd (answer, s')
  | .commit answer => (k.commit.attempt s).CanEnd (answer, s')
  | .abort => (k.abort s).CanEnd ((), s')
  | .close => (k.close s).CanEnd ((), s')

def PageOutput.Hears (output : PageOutput) (told : List (OutputCall PageOutputCall)) : Prop :=
  ∃ s, Trail output.sink.Steps output.initial told s

/-- Of what it is told with this task and schema the formatter makes so what it tells the output for
files. -/
def FormatterPlugin.Formats (f : FormatterPlugin) (task : Task) (schema : Schema)
    (F : List (OutputCall PageOutputCall) → List (OutputCall FileCall) → Prop) : Prop :=
  ∀ outer pages, f.openTask task schema outer = .ok pages → ∀ told, pages.Hears told →
    ∃ calls, outer.Hears calls ∧ F told calls

/-- An encoder that is opened with its task makes the outer output of the inner one. -/
def EncoderPlugin.Opens (x : EncoderPlugin × Task) (outer inner : FileOutput) : Prop :=
  x.1.openTask x.2 inner = .ok outer

/-- What is told to the encoder is told so to the output behind it. -/
def EncoderPlugin.Encodes (x : EncoderPlugin × Task)
    (T : List (OutputCall FileCall) → List (OutputCall FileCall) → Prop) : Prop :=
  ∀ outer inner, Opens x outer inner → ∀ calls, outer.Hears calls →
    ∃ handed, inner.Hears handed ∧ T calls handed

variable {encoders : List (EncoderPlugin × Task)} {outer inner : FileOutput}
  {T : EncoderPlugin × Task → List (OutputCall FileCall) → List (OutputCall FileCall) → Prop}
  {calls : List (OutputCall FileCall)}

theorem FileBasedOutput.openEncoders_ok :
    openEncoders encoders inner = .ok outer ↔ Through (encoders.map EncoderPlugin.Opens) outer inner := by
  induction encoders generalizing outer with
  | nil => simp [openEncoders, Through, eq_comm]
  | cons x rest ih =>
    rw [openEncoders, List.map_cons, through_cons]
    simp only [← ih]
    unfold EncoderPlugin.Opens
    cases openEncoders rest inner with
    | error e => simp
    | ok wrapped => simp

/-- Encoders fail to open when one of them refuses what those behind it have opened. -/
theorem FileBasedOutput.openEncoders_error {e : PluginError}
    (refused : openEncoders encoders inner = .error e) :
    ∃ before x behind middle, encoders = before ++ x :: behind ∧
      Through (behind.map EncoderPlugin.Opens) middle inner ∧ x.1.openTask x.2 middle = .error e := by
  induction encoders with
  | nil => cases refused
  | cons x rest ih =>
    rw [openEncoders] at refused
    cases opened : openEncoders rest inner with
    | error e' =>
      rw [opened] at refused
      cases refused
      obtain ⟨before, y, behind, middle, rfl, through, stops⟩ := ih opened
      exact ⟨x :: before, y, behind, middle, rfl, through, stops⟩
    | ok wrapped =>
      rw [opened] at refused
      exact ⟨[], x, rest, wrapped, rfl, openEncoders_ok.mp opened, refused⟩

theorem encoders_hear (encodes : ∀ x ∈ encoders, EncoderPlugin.Encodes x (T x))
    (opened : Through (encoders.map EncoderPlugin.Opens) outer inner) (hears : outer.Hears calls) :
    ∃ handed, inner.Hears handed ∧ Through (encoders.map T) calls handed := by
  induction encoders generalizing outer calls with
  | nil =>
    cases opened
    exact ⟨calls, hears, rfl⟩
  | cons x rest ih =>
    obtain ⟨between, first, behind⟩ := opened
    -- The first encoder lies outermost, and is told before the others.
    obtain ⟨middle, here, made⟩ := encodes x List.mem_cons_self _ _ first calls hears
    obtain ⟨handed, there, others⟩ := ih (fun y mem => encodes y (List.mem_cons_of_mem x mem)) behind here
    exact ⟨handed, there, middle, made, others⟩

/-- Of this the encoders, one after the other, make what the output for files is told. Where each of them
makes of whole files certain other ones, they do so one after the other. -/
def FileOutput.HearsThrough (files : FileOutput) (encoders : List (EncoderPlugin × Task))
    (calls : List (OutputCall FileCall)) : Prop :=
  ∀ T : EncoderPlugin × Task → List (OutputCall FileCall) → List (OutputCall FileCall) → Prop,
    (∀ x ∈ encoders, EncoderPlugin.Encodes x (T x)) →
      ∃ handed, files.Hears handed ∧ Through (encoders.map T) calls handed ∧
        ∀ B : EncoderPlugin × Task → List Bytes → List Bytes,
          (∀ x ∈ encoders, Simulates FileCall.Write (B x) (T x)) →
            ∀ contents, FileCall.Write calls contents →
              FileCall.Write handed (encoders.foldl (fun contents x => B x contents) contents)

theorem FileOutput.Hears.through (hears : outer.Hears calls)
    (opened : Through (encoders.map EncoderPlugin.Opens) outer inner) : inner.HearsThrough encoders calls := by
  intro T encodes
  obtain ⟨handed, heard, made⟩ := encoders_hear encodes opened hears
  exact ⟨handed, heard, made, fun B same contents => Simulates.through same calls handed contents made⟩

end Encoders

section Changes

variable {f : Bytes → Bytes}

/-- The pieces of a file with all of their bytes changed. -/
def Stream.mapBytes (f : Bytes → Bytes) : Stream → Stream := Except.map (List.map (Except.map f))

theorem FileInput.mapBytes_reads {input : FileInput} {streams' : List Stream}
    (reads : (input.mapBytes f).Reads streams') :
    ∃ streams, input.Reads streams ∧ streams' = streams.map (Stream.mapBytes f) := by
  simp only [Reads, mapBytes, List.forall₂_map_left_iff] at reads ⊢
  generalize input.files = files at reads
  induction reads with
  | nil => exact ⟨[], .nil, rfl⟩
  | cons first _ ih =>
    obtain ⟨stream, ends, rfl⟩ := Program.canEnd_andThen.mp first
    obtain ⟨streams, each, rfl⟩ := ih
    exact ⟨stream :: streams, .cons ends each, rfl⟩

/-- A decoder that changes the bytes of all pieces. -/
theorem DecoderPlugin.decodes_mapBytes {x : DecoderPlugin × Task}
    (changes : ∀ input, x.1.openTask x.2 input = .ok (input.mapBytes f)) :
    Decodes x fun streams streams' => streams' = streams.map (Stream.mapBytes f) := by
  intro input input' opens streams' reads
  unfold Opens at opens
  rw [changes] at opens
  cases opens
  exact FileInput.mapBytes_reads reads

/-- Bytes that are changed one by one are changed so in whole files. -/
theorem Stream.mapBytes_hold (g : UInt8 → UInt8) : Simulates Hold (List.map (List.map g))
    fun streams streams' => streams' = streams.map (mapBytes (List.map g)) := by
  rintro _ _ _ rfl ⟨files, rfl, rfl⟩
  refine ⟨files.map (List.map (List.map g)), ?_, ?_⟩
  · simp [mapBytes, Except.map]
  · simp [List.map_flatten]

/-- The call with the bytes changed that it hands over. -/
def FileCall.mapBytes (f : Bytes → Bytes) : OutputCall FileCall → OutputCall FileCall
  | .hand (.add data answer) => .hand (.add (f data) answer)
  | call => call

/-- An encoder that changes the bytes that it is handed. -/
theorem EncoderPlugin.encodes_mapBytes {x : EncoderPlugin × Task}
    (changes : ∀ inner, x.1.openTask x.2 inner = .ok (inner.mapBytes f)) :
    Encodes x fun calls handed => handed = calls.map (FileCall.mapBytes f) := by
  intro outer inner opens calls hears
  unfold Opens at opens
  rw [changes] at opens
  cases opens
  obtain ⟨s, trail⟩ := hears
  refine ⟨_, ⟨s, trail.renamed (r := inner.sink.Steps) (FileCall.mapBytes f) fun s call s' h => ?_⟩, rfl⟩
  match call with
  | .hand (.nextFile _) | .hand (.add _ _) | .finish _ | .commit _ | .abort | .close => exact h

theorem FileCall.mapBytes_write (g : UInt8 → UInt8) : Simulates Write (List.map (List.map g))
    fun calls handed => handed = calls.map (mapBytes (List.map g)) := by
  rintro _ _ _ rfl ⟨files, report, rfl, rfl⟩
  refine ⟨files.map (List.map (List.map g)), report, ?_, ?_⟩
  · simp [whole, mapBytes, List.map_flatMap, List.flatMap_map, Function.comp_def]
  · simp [List.map_flatten]

end Changes

end BulkTransfer
