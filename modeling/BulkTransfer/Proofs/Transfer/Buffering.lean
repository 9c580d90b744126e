import BulkTransfer.Proofs.Config.Sections
import BulkTransfer.Proofs.Transfer.Resumption
import BulkTransfer.Proofs.Transfer.WholeOrNothing
/-!
# Buffering

Neither the pieces in which files are read nor the size of pages, nor anything else of the section
`exec`, has a say in what a transfer to files leaves. Which tasks commit is decided by the disk that
they are launched on: the file of a task has to be there and to say records, and nothing may be in the
way of its output. The output is then what the file says, whatever was buffered on the way.
-/
namespace BulkTransfer

/-- The disk on which the tasks of a config are launched, if it comes to that. -/
def Executor.launchOf? (config : Config) (d : Disk) : Option Disk :=
  match TransferPlugins.resolve Registry.builtIn config with
  | .ok plugins => launch? plugins d
  | .error _ => none

section Sections

variable {config config' : Config} (h : config.AgreesBut config' "exec")

include h

namespace Document.AgreesBut

theorem resolve_eq (registry : Registry) :
    TransferPlugins.resolve registry config = TransferPlugins.resolve registry config' := by
  unfold TransferPlugins.resolve
  rw [h.section_eq (by decide), h.section_eq (by decide), h.nestedList (by decide)]

theorem inputFiles_eq (d : Disk) : inputFiles config d = inputFiles config' d := by
  unfold inputFiles
  rw [h.section_eq (by decide)]

theorem rendering_eq (content : Bytes) : rendering config content = rendering config' content := by
  unfold rendering
  rw [h.section_eq (by decide), h.section_eq (by decide), h.nestedList (by decide)]

theorem writesFiles {n : LocalOutput.Naming} (writes : WritesFiles config n) :
    WritesFiles config' n := by
  obtain ⟨output, wanted, rest⟩ := writes
  exact ⟨output, (h.section_eq (by decide)).symm.trans wanted, rest⟩

theorem launchOf?_eq (d : Disk) : Executor.launchOf? config d = Executor.launchOf? config' d := by
  unfold Executor.launchOf?
  rw [h.resolve_eq]

end Document.AgreesBut

end Sections

section Launches

variable {cut : LocalInput.Cutting} {config : Config}

theorem Executor.launchBehind?_reading {plugins : TransferPlugins} {count : Nat}
    (filters : List FilterChoice) (schema : Schema) (d : Disk) :
    launchBehind? (plugins.reading cut) count filters schema d =
      launchBehind? plugins count filters schema d := by
  induction filters generalizing schema d with
  | nil => rfl
  | cons f rest ih =>
    rw [launchBehind?, launchBehind?]
    exact congrArg (Option.bind _) (funext fun x => ih x.1.schema x.2)

/-- The pieces in which files are read do not matter before the tasks. -/
theorem Executor.launchOf?_eq {plugins : TransferPlugins} (d : Disk)
    (resolved : TransferPlugins.resolve (Registry.cutting cut) config = .ok plugins) :
    launchOf? config d = launch? plugins d := by
  rw [TransferPlugins.resolve_reading] at resolved
  cases regular : TransferPlugins.resolve Registry.builtIn config with
  | error e =>
    rw [regular] at resolved
    cases resolved
  | ok known =>
    rw [regular] at resolved
    cases resolved
    have input := (TransferPlugins.resolve_cutting (Registry.cutting_regular ▸ regular)).1
    simp only [launchOf?, regular, launch?, launchBehind?_reading]
    rw [input]
    rfl

theorem Executor.launchOf?_none {e : PluginError} (d : Disk)
    (failed : TransferPlugins.resolve (Registry.cutting cut) config = .error e) :
    launchOf? config d = none := by
  rw [TransferPlugins.resolve_reading] at failed
  cases regular : TransferPlugins.resolve Registry.builtIn config with
  | error e => simp only [launchOf?, regular]
  | ok plugins =>
    rw [regular] at failed
    cases failed

end Launches

section Tasks

open LocalOutput (Naming Delivery tempPath)

/-- On this disk the file of a task can be read and rendered, and nothing is in the way of its
output. -/
structure Deliverable (config : Config) (n : Naming) (i : Nat) (path : String) (bytes : Bytes)
    (d : Disk) : Prop where
  rendered : ∃ content, d.fileAt? path = some content ∧ rendering config content = .ok bytes
  temp : d.LeadsTo (tempPath (n.path i 0)) ∧
    d.node? (Path.place (tempPath (n.path i 0))) ≠ some .directory
  final : d.LeadsTo (n.path i 0) ∧ d.node? (Path.place (n.path i 0)) ≠ some .directory

variable {config : Config} {n : Naming} {o : Order} {terms : Terms} {i : Nat} {path : String}
  {bytes : Bytes} {rows : List (List Cell)} {report : Report} {d d' : Disk}

theorem Deliverable.agrees (h : Deliverable config n i path bytes d) {P : Location → Prop}
    (agrees : d.AgreesOn P d') (read : P (Path.place path)) :
    Deliverable config n i path bytes d' where
  rendered := by
    obtain ⟨content, held, rendered⟩ := h.rendered
    exact ⟨content, (agrees.fileAt? read).trans held, rendered⟩
  temp := ⟨h.temp.1.agrees agrees, fun there => h.temp.2 ((agrees.directory _).mp there)⟩
  final := ⟨h.final.1.agrees agrees, fun there => h.final.2 ((agrees.directory _).mp there)⟩

theorem Document.AgreesBut.deliverable {config' : Config} (h : config.AgreesBut config' "exec") :
    Deliverable config n i path bytes d ↔ Deliverable config' n i path bytes d := by
  constructor
  · rintro ⟨⟨content, held, rendered⟩, temp, final⟩
    exact ⟨⟨content, held, (h.rendering_eq content).symm.trans rendered⟩, temp, final⟩
  · rintro ⟨⟨content, held, rendered⟩, temp, final⟩
    exact ⟨⟨content, held, (h.rendering_eq content).trans rendered⟩, temp, final⟩

variable (writes : WritesFiles config n) (ordered : Order.ofConfig config o.files = .ok o)

include writes ordered

/-- Where a task has committed it could do so, and its output is what its file says. -/
theorem Order.Keeps.deliverable (kept : o.Keeps terms i rows report d) (alone : terms.alone)
    (told : Ltsv.Tells o.source.options o.source.schema path rows d) :
    ∃ bytes, Deliverable config n i path bytes d ∧ d.fileAt? (n.path i 0) = some bytes := by
  obtain ⟨_, options, dialect, -, delivers, renders⟩ := writes.delivery ordered
  obtain ⟨way, beside, moved, bytes, made, written⟩ := (kept.1 _ (delivers i)).2 alone
  obtain ⟨content, held, rows_told⟩ := told
  have rendered : rendering config content = .ok bytes := by
    rw [renders, rows_told]
    exact made
  refine ⟨bytes, ⟨⟨content, held, rendered⟩, ⟨beside, fun there => ?_⟩, ⟨way, fun there => ?_⟩⟩,
    Disk.fileAt?_eq.mpr ⟨way, written⟩⟩
  · cases moved.symm.trans there
  · cases written.symm.trans there

/-- Where a task cannot commit its output is not deliverable, if the records have room. -/
theorem Order.Hindered.undeliverable (hindered : o.Hindered terms i d)
    (given : o.files[i]? = some path)
    (unwritten : ∀ j < o.files.length, ¬ o.Owns j (Path.place path))
    (allows : ∀ m a, d.refusal m a = none)
    (room : ∀ content rows, d.fileAt? path = some content →
      Ltsv.fileRows o.source.options o.source.schema content = .ok rows →
        o.source.schema.HasRoom terms.pageSize rows) : ¬ Deliverable config n i path bytes d := by
  obtain ⟨_, options, dialect, -, delivers, renders⟩ := writes.delivery ordered
  rintro ⟨⟨content, held, rendered⟩, temp, final⟩
  rw [renders] at rendered
  obtain ⟨rows, told, made⟩ := Attempt.of_bind rendered
  have free : ∀ v, o.delivery? i = some v → v.IsFree d := by
    intro v hv
    obtain rfl := Option.some.inj (hv.symm.trans (delivers i))
    exact ⟨allows, temp, final⟩
  rcases hindered path content rows given unwritten allows free held told with
    ⟨v, hv, refused⟩ | crowded
  · obtain rfl := Option.some.inj (hv.symm.trans (delivers i))
    exact refused bytes made
  · exact crowded (room content rows held told)

omit ordered in
/-- A task of a launched transfer commits just if its output is deliverable on the disk that it was
launched on. -/
theorem Order.delivers {plugins : TransferPlugins} {b : plugins.IsBuiltIn config}
    {ordered : Order.ofConfig config o.files = .ok o} {spread : terms.alone → o.IsSpread}
    {pending : List Nat} {launch : Disk} {t : Flight} {w : World} {count : Nat}
    (course : (o.charter b ordered terms spread).Course pending launch t w)
    (settled : t.Settled (List.replicate count .blank)) (started : t.progress.hasStarted = true)
    (alone : terms.alone) (steady : terms.steady) (given : o.files[i]? = some path)
    (unwritten : ∀ j < o.files.length, ¬ o.Owns j (Path.place path))
    (allows : ∀ m a, launch.refusal m a = none)
    (room : ∀ content rows, launch.fileAt? path = some content →
      Ltsv.fileRows o.source.options o.source.schema content = .ok rows →
        o.source.schema.HasRoom terms.pageSize rows) :
    ∃ slot, t.progress.slots[i]? = some slot ∧
      ((slot.isCommitted = true ∧ ∃ bytes, Deliverable config n i path bytes launch ∧
          w.disk.fileAt? (n.path i 0) = some bytes) ∨
        slot.isCommitted = false ∧ ∀ bytes, ¬ Deliverable config n i path bytes launch) := by
  have foreign : ∀ j ∈ pending, ¬ (o.region terms j).reach (Path.place path) :=
    fun j hj => unwritten j (course.inside j hj)
  obtain ⟨outcome, -, slot, settles⟩ := Order.outcome course settled started
    (List.getElem?_eq_some_iff.mp given).1
  refine ⟨_, slot, ?_⟩
  rcases settles with ⟨path', rows, report, given', rfl, kept, told⟩ | ⟨-, none, -, hindered⟩
  · obtain rfl : path = path' := Option.some.inj (given.symm.trans given')
    obtain ⟨bytes, deliverable, left⟩ := kept.deliverable writes ordered alone
      (told ⟨⟨path, given, rfl⟩, unwritten⟩)
    exact .inl ⟨rfl, bytes, deliverable.agrees course.frame.symm foreign, left⟩
  · refine .inr ⟨by simp [TaskSlot.isCommitted, none], fun bytes deliverable => ?_⟩
    refine (hindered steady alone).undeliverable writes ordered given unwritten ?_ ?_
      (deliverable.agrees course.frame foreign)
    · exact fun m a => course.frame.refusal ▸ allows m a
    · exact fun content rows held => room content rows ((course.frame.fileAt? foreign).symm.trans held)

end Tasks

/-- Each task is alone with its output, and none is stopped. -/
def Terms.undisturbed (pageSize : Nat) : Terms := ⟨True, False, True, pageSize, False.elim⟩

theorem Schema.HasRoom.pooled {s : Schema} {pageSize : Nat} {rows : List (List Cell)}
    (h : s.HasRoom pageSize rows) : s.HasRoom (Pool.ofPageSize pageSize).pageSize rows := by
  refine ⟨h.each, h.all.imp_left fun small => ?_⟩
  exact max_le small (by decide)

/-- What is told of a transfer counts the task as committed. -/
def Executor.Tells (result : Except ExecutionError ExecutionResult) (i : Nat) : Prop :=
  ∀ e, result = .error e → ∃ state cause suppressed,
    e = .partiallyFailed state cause suppressed ∧ state.isTaskCommitted i = true

theorem Landing.tells_slot {l : Landing} {slots : List TaskSlot} {slot : TaskSlot} {i : Nat}
    (settled : l.flight.Settled slots) (started : l.flight.progress.hasStarted = true)
    (ends : ∀ diff, l.result = .ok diff → l.flight.IsComplete)
    (hs : l.flight.progress.slots[i]? = some slot) :
    Executor.Tells l.conclude i ↔ slot.isCommitted = true := by
  cases result : l.result with
  | ok diff =>
    rw [conclude_ok result]
    refine ⟨fun _ => Progress.committed_of_failedCount (ends diff result).2 hs, fun _ e h => ?_⟩
    cases h
  | error e =>
    cases left : l.resumeState? with
    | none => exact absurd (started.symm.trans (unstarted_of_none settled left)) (by simp)
    | some s =>
      obtain ⟨cause, suppressed, told⟩ := conclude_partiallyFailed result left
      rw [told, ← ResumeState.isTaskCommitted_eq left hs]
      constructor
      · intro tells
        obtain ⟨_, _, _, same, committed⟩ := tells _ rfl
        cases same
        exact committed
      · rintro committed _ ⟨⟩
        exact ⟨s, cause, suppressed, rfl, committed⟩

/-- The records of a file as a config reads them, with their columns. -/
def recordsOf (config : Config) (content : Bytes) : Attempt (Schema × List (List Cell)) := do
  let source ← Source.ofConfig (← TransferPlugins.section? config "in")
  return (source.schema, ← Ltsv.fileRows source.options source.schema content)

/-- A transfer that reads files in some pieces. -/
structure Buffered where
  config : Config
  cut : LocalInput.Cutting
  world : World

namespace Buffered

open LocalOutput (Naming tempPath)

def files (b : Buffered) : List String := inputFiles b.config b.world.disk

def outcome (b : Buffered) : Except ExecutionError ExecutionResult × World :=
  (Executor.run (Registry.cutting b.cut) b.config).run b.world

def Commits (b : Buffered) (i : Nat) : Prop := Executor.Tells b.outcome.1 i

/-- The settings are accepted, and the records of each file have room in pages of the size that they
give. -/
def HasRoom (b : Buffered) : Prop :=
  ∃ execConfig exec, Executor.settings b.config = .ok (execConfig, exec) ∧
    ∀ path ∈ b.files, ∀ content, b.world.disk.node? (Path.place path) = some (.file content) →
      ∀ s rows, recordsOf b.config content = .ok (s, rows) → s.HasRoom exec.pageSize rows

/-- No task dies or is cancelled, and the disk refuses nothing. -/
structure IsCalm (b : Buffered) : Prop where
  crash : ∀ choice ∈ b.world.schedule, ¬ choice.IsCrash
  stop : ¬ b.world.MayStop
  allows : ∀ m a, b.world.disk.refusal m a = none

/-- The outputs of the tasks are in places of their own, none of which is that of an input. -/
structure IsApart (b : Buffered) (n : Naming) : Prop where
  outputs : n.Apart b.files.length
  inputs : ∀ i < b.files.length, ∀ path ∈ b.files, Path.place path ≠ Path.place (n.path i 0) ∧
    Path.place path ≠ Path.place (tempPath (n.path i 0))

variable {b : Buffered} {n : Naming} {i : Nat} {path : String}

theorem recordsOf_ordered {o : Order} {content : Bytes} {rows : List (List Cell)}
    (ordered : Order.ofConfig b.config o.files = .ok o)
    (told : Ltsv.fileRows o.source.options o.source.schema content = .ok rows) :
    recordsOf b.config content = .ok (o.source.schema, rows) := by
  obtain ⟨-, _, _, _, given, -, -, read, -⟩ := Order.ofConfig_ok ordered
  simp only [recordsOf, given, read, told, bind, Except.bind, pure, Except.pure]

theorem IsApart.order {o : Order} (apart : b.IsApart n) (writes : WritesFiles b.config n)
    (finds : Executor.Finds b.config b.world o) : o.IsApart := by
  obtain ⟨_, options, dialect, files, -⟩ := writes.delivery finds.ordered
  have same : b.files = o.files := finds.inputFiles_eq
  obtain ⟨outputs, inputs⟩ := apart
  rw [same] at outputs inputs
  exact Order.isApart_files files outputs inputs

/-- A task commits just if its output is deliverable on the disk that the tasks are launched on, and
then it is delivered. -/
def Ends (b : Buffered) (n : Naming) (i : Nat) (path : String) : Prop :=
  (¬ b.Commits i ∧ ∀ launch, Executor.launchOf? b.config b.world.disk = some launch →
      ∀ bytes, ¬ Deliverable b.config n i path bytes launch) ∨
    ∃ launch bytes, Executor.launchOf? b.config b.world.disk = some launch ∧
      b.world.disk.GrowsTo launch ∧ Deliverable b.config n i path bytes launch ∧ b.Commits i ∧
        b.outcome.2.disk.fileAt? (n.path i 0) = some bytes

/-- Nothing is told of the tasks of a transfer that has launched none. -/
theorem ends_unlaunched {e : ExecutionError} (told : b.outcome.1 = .error e)
    (whole : ∀ state cause suppressed, e ≠ .partiallyFailed state cause suppressed)
    (unlaunched : Executor.launchOf? b.config b.world.disk = none) : b.Ends n i path := by
  refine .inl ⟨fun commits => ?_, fun launch launched => ?_⟩
  · obtain ⟨state, cause, suppressed, same, -⟩ := commits e told
    exact whole state cause suppressed same
  · rw [unlaunched] at launched
    cases launched

theorem ends_launched {plugins : TransferPlugins} {built : plugins.IsBuiltIn b.config} {o : Order}
    (finds : Executor.Finds b.config b.world o) {pageSize count : Nat}
    {spread : (Terms.undisturbed pageSize).alone → o.IsSpread} {pending : List Nat} {launch : Disk}
    {l : Landing} {w : World} (writes : WritesFiles b.config n) (apart : b.IsApart n) (calm : b.IsCalm)
    (room : ∀ content, b.world.disk.node? (Path.place path) = some (.file content) →
      ∀ s rows, recordsOf b.config content = .ok (s, rows) → s.HasRoom pageSize rows)
    (given : b.files[i]? = some path) (told : b.outcome = (l.conclude, w))
    (launched : Executor.launchOf? b.config b.world.disk = some launch)
    (grows : b.world.disk.GrowsTo launch)
    (course : (o.charter built finds.ordered (.undisturbed pageSize) spread).Course pending launch
      l.flight w)
    (settled : l.flight.Settled (List.replicate count .blank))
    (started : l.flight.progress.hasStarted = true)
    (done : ∀ diff, l.result = .ok diff → l.flight.IsComplete) : b.Ends n i path := by
  have same : b.files = o.files := finds.inputFiles_eq
  have given : o.files[i]? = some path := same ▸ given
  obtain ⟨slot, hs, ends⟩ := Order.delivers writes course settled started trivial trivial given
    (fun j hj => (apart.order writes finds).inputs j hj path (List.mem_of_getElem? given))
    (fun m a => grows.refusal ▸ calm.allows m a) (fun content rows held rows_told => by
      refine room content ?_ _ rows (recordsOf_ordered finds.ordered rows_told)
      exact (grows.file _ content).mp (Disk.fileAt?_eq.mp held).2)
  have tells : b.Commits i ↔ slot.isCommitted = true := by
    rw [Commits, told]
    exact Landing.tells_slot settled started done hs
  rcases ends with ⟨committed, bytes, deliverable, left⟩ | ⟨failed, none⟩
  · exact .inr ⟨launch, bytes, launched, grows, deliverable, tells.mpr committed,
      (congrArg (fun x => x.2.disk.fileAt? (n.path i 0)) told).trans left⟩
  · refine .inl ⟨fun commits => ?_, fun launch' launched' => ?_⟩
    · rw [tells.mp commits] at failed
      cases failed
    · obtain rfl : launch = launch' := Option.some.inj (launched.symm.trans launched')
      exact none

theorem ends (writes : WritesFiles b.config n) (apart : b.IsApart n) (calm : b.IsCalm)
    (room : b.HasRoom) (given : b.files[i]? = some path) : b.Ends n i path := by
  obtain ⟨execConfig, exec, accepted, room⟩ := room
  cases resolved : TransferPlugins.resolve (Registry.cutting b.cut) b.config with
  | error e =>
    refine ends_unlaunched (e := .plugin e) ?_ (by simp)
      (Executor.launchOf?_none b.world.disk resolved)
    simp only [outcome, Executor.run, Executor.departure, accepted, resolved]
    rfl
  | ok plugins =>
    have launches := Executor.launchOf?_eq b.world.disk resolved
    obtain ⟨d, departs, rfl⟩ : ∃ d, Executor.departure (Registry.cutting b.cut) b.config = .ok d ∧
        d.exec = exec := by
      simp only [Executor.departure, accepted, resolved]
      exact ⟨_, rfl, rfl⟩
    have told : b.outcome = ((d.fly.run b.world).1.conclude, (d.fly.run b.world).2) :=
      Executor.run_departs departs
    have fits : ∀ o, Executor.Finds b.config b.world o →
        o.Fits (.undisturbed (Pool.ofPageSize d.exec.pageSize).pageSize) b.world := fun o finds =>
      ⟨fun _ => (apart.order writes finds).spread, False.elim, fun _ => calm.crash, fun _ => calm.stop⟩
    rcases Executor.departure_leads departs resolved (TransferPlugins.resolve_cutting resolved).2
        (Executor.silent_of_writes writes) rfl fits with
      ⟨⟨e, failed⟩, idle, unlaunched⟩ | ⟨o, finds, pending, launch, grows, launched, course, started, done⟩
    · have failed := Landing.conclude_plugin failed (Landing.resumeState?_none idle.unstarted)
      exact ends_unlaunched ((congrArg Prod.fst told).trans failed) (by simp)
        (launches.trans unlaunched)
    · obtain ⟨count, settled⟩ := Executor.departure_settles departs b.world
      exact ends_launched finds writes apart calm
        (fun content held s rows read =>
          (room path (List.mem_of_getElem? given) content held s rows read).pooled)
        given told (launches.trans launched) grows course settled started
        fun diff result => (done diff result).2.1.1

theorem IsApart.rebuffered {b' : Buffered} (apart : b.IsApart n) (same : b.files = b'.files) :
    b'.IsApart n := by
  obtain ⟨outputs, inputs⟩ := apart
  rw [same] at outputs inputs
  exact ⟨outputs, inputs⟩

/-- Both transfer the same files by the same config, but for the section `exec` and the pieces in which
files are read. -/
structure Rebuffers (a b : Buffered) : Prop where
  config : a.config.AgreesBut b.config "exec"
  disk : a.world.disk = b.world.disk

section Examples

open Runner (oneFile)

/-- Each byte is a piece of its own, behind one that is empty. -/
def bytewise : LocalInput.Cutting :=
  ⟨fun _ content => [] :: content.map fun byte => [byte], fun _ content => by simp [← List.flatMap_def]⟩

def plain (config : Config) (d : Disk) : Buffered := ⟨config, .regular, .ofDisk d⟩

def small (cut : LocalInput.Cutting) (config : Config) (d : Disk) : Buffered :=
  ⟨config.setNested "exec" ⟨[("max_threads", .ofNat 1), ("page_size", .ofNat 1)]⟩, cut, .ofDisk d⟩

theorem plain_rebuffers (cut : LocalInput.Cutting) (config : Config) (d : Disk) :
    (plain config d).Rebuffers (small cut config d) := ⟨Document.agreesBut_set _ _ _, rfl⟩

theorem calm_ofDisk {d : Disk} (idle : b.world = .ofDisk d) (allows : d.refusal = fun _ _ => none) :
    b.IsCalm := by
  obtain ⟨config, cut, world⟩ := b
  cases idle
  refine ⟨by simp, by simp [World.MayStop], fun m a => ?_⟩
  exact congrFun (congrFun allows m) a

def checksRoom (b : Buffered) (files : List String) : Bool :=
  (Executor.settings b.config).toOption.any fun settings =>
    decide (settings.2.pageSize ≤ greatestOffset) && files.all fun path =>
      match b.world.disk.node? (Path.place path) with
      | some (.file content) => (recordsOf b.config content).toOption.all fun records =>
          records.2.all fun row => decide (records.1.rowSize row ≤ greatestOffset)
      | _ => true

theorem hasRoom_of_check {files : List String} (found : b.files = files)
    (h : b.checksRoom files = true) : b.HasRoom := by
  unfold checksRoom at h
  cases accepted : Executor.settings b.config with
  | error e => simp [accepted, Except.toOption] at h
  | ok settings =>
    obtain ⟨execConfig, exec⟩ := settings
    simp only [accepted, Except.toOption, Option.any_some, Bool.and_eq_true, decide_eq_true_eq,
      List.all_eq_true] at h
    refine ⟨execConfig, exec, accepted, fun path hm content held s rows told => ?_⟩
    have room := h.2 path (found ▸ hm)
    simp only [held, told, Option.all_some, List.all_eq_true, decide_eq_true_eq] at room
    exact ⟨room, .inl h.1⟩

/-- Both transfers commit all tasks, but the output of this one is not what its file says. -/
structure Spoiled (a b : Buffered) (n : Naming) (i : Nat) : Prop where
  same : a.Rebuffers b
  writes : WritesFiles a.config n
  calm : a.IsCalm ∧ b.IsCalm
  room : a.HasRoom ∧ b.HasRoom
  commits : ∀ j, a.Commits j ∧ b.Commits j
  lost : ∃ path content bytes, a.files[i]? = some path ∧
    a.world.disk.node? (Path.place path) = some (.file content) ∧
      rendering a.config content = .ok bytes ∧
        a.outcome.2.disk.fileAt? (n.path i 0) ≠ some bytes ∧
          b.outcome.2.disk.fileAt? (n.path i 0) ≠ some bytes

theorem outcome_of_leaves {search : LocalInput.Search} {files : List String} {disk : Disk}
    {output : String} {bytes : Bytes} (regular : b.cut = .regular)
    (listed : LocalInput.list search b.world.disk = (.ok files, disk))
    (h : leaves b.config search files { b.world with disk := disk } (fun l w =>
      l.result.toOption.isSome && w.disk.fileAt? output == some bytes) = true) :
    (∀ i, b.Commits i) ∧ b.outcome.2.disk.fileAt? output = some bytes := by
  obtain ⟨d, departs, checked⟩ := leaves_ends listed h
  rw [Bool.and_eq_true, beq_iff_eq] at checked
  have told : b.outcome = ((d.fly.run b.world).1.conclude, (d.fly.run b.world).2) := by
    rw [outcome, regular]
    exact Executor.run_departs departs
  cases result : (d.fly.run b.world).1.result with
  | error e =>
    rw [result] at checked
    cases checked.1
  | ok diff =>
    rw [told]
    refine ⟨fun i e failed => ?_, checked.2⟩
    rw [told, Landing.conclude_ok result] at failed
    cases failed

/-- A file to copy, what its copy should hold, and what is known to be found there. -/
structure Misplacement where
  config : Config
  disk : Disk
  files : List String
  naming : Naming
  task : Nat
  file : String
  content : Bytes
  output : String
  expected : Bytes
  found : Bytes

namespace Misplacement

variable (m : Misplacement)

def leavesFound (b : Buffered) : Bool :=
  b.checksRoom m.files && leaves b.config ⟨"in/", none⟩ m.files (.ofDisk m.disk.counted) fun l w =>
    l.result.toOption.isSome && w.disk.fileAt? m.output == some m.found

def checks : Bool :=
  m.leavesFound (plain m.config m.disk) && m.leavesFound (small .regular m.config m.disk) &&
    m.files[m.task]? == some m.file && m.disk.node? (Path.place m.file) == some (.file m.content) &&
      (rendering m.config m.content).toOption == some m.expected &&
        m.naming.path m.task 0 == m.output && m.found != m.expected

variable {m}

theorem spoils (writes : WritesFiles m.config m.naming) (allows : m.disk.refusal = fun _ _ => none)
    (listed : LocalInput.list ⟨"in/", none⟩ m.disk = (.ok m.files, m.disk.counted))
    (found : inputFiles m.config m.disk = m.files) (h : m.checks = true) :
    (plain m.config m.disk).Spoiled (small .regular m.config m.disk) m.naming m.task := by
  have same := plain_rebuffers .regular m.config m.disk
  have found' : (small .regular m.config m.disk).files = m.files :=
    (same.config.inputFiles_eq m.disk).symm.trans found
  simp only [checks, leavesFound, Bool.and_eq_true, beq_iff_eq, bne_iff_ne] at h
  obtain ⟨⟨⟨⟨⟨⟨⟨room, left⟩, room', left'⟩, given⟩, held⟩, rendered⟩, place⟩, differ⟩ := h
  obtain ⟨commits, spoiled⟩ := @outcome_of_leaves (plain m.config m.disk) _ _ _ _ _ rfl listed left
  obtain ⟨commits', spoiled'⟩ :=
    @outcome_of_leaves (small .regular m.config m.disk) _ _ _ _ _ rfl listed left'
  refine ⟨same, writes, ⟨calm_ofDisk rfl allows, calm_ofDisk rfl allows⟩,
    ⟨hasRoom_of_check found room, hasRoom_of_check found' room'⟩,
    fun j => ⟨commits j, commits' j⟩, m.file, m.content, m.expected, ?_, held, ?_, ?_, ?_⟩
  · rw [← given]
    exact congrArg (·[m.task]?) found
  · cases made : rendering m.config m.content with
    | error e =>
      rw [made] at rendered
      cases rendered
    | ok bytes =>
      rw [made] at rendered
      cases rendered
      exact made
  · rw [place, spoiled]
    simpa using differ
  · rw [place, spoiled']
    simpa using differ

end Misplacement

/-- Two copies are in one place, and the last one is found there. -/
def climbing : Misplacement :=
  ⟨copying "d/../x", twoFiles true, ["in/1", "in/2"], ⟨"o", "d/../x"⟩, 0, "in/1", Utf8.encode "a:1\n",
    "o000.00.d/../x", Utf8.encode "a\r\n1\r\n", Utf8.encode "a\r\n2\r\n"⟩

/-- The first copy is in the place of the second file, and says a row too. -/
def beside : Misplacement :=
  ⟨Interruption.copyingBeside, ⟨[(["in"], .directory), (["in", "1"], .file (Utf8.encode "a:a:1\n")),
    (["in", "o000.00.csv"], .file (Utf8.encode "a:9\n"))], 0, fun _ _ => none⟩,
    ["in/1", "in/o000.00.csv"], ⟨"in/o", "csv"⟩, 1, "in/o000.00.csv", Utf8.encode "a:9\n",
    "in/o001.00.csv", Utf8.encode "9\r\n", Utf8.encode "1\r\n"⟩

theorem beside_listed : LocalInput.list ⟨"in/", none⟩ beside.disk =
    (.ok beside.files, beside.disk.counted) := by
  have found : LocalInput.listWithin "in/" (beside.disk.nodes.length + 2) beside.disk
      [LocalInput.rootOf "in/"] [] = (.ok beside.files, beside.disk.counted) := rfl
  exact LocalInput.list_found (s := ⟨"in/", none⟩) found (by decide)

end Examples

end Buffered

end BulkTransfer
