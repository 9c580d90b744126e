import BulkTransfer.Proofs.Local.OutputPaths
import BulkTransfer.Proofs.Transfer.Journey
import BulkTransfer.Proofs.Transfer.OrderFlight
/-!
# Resumed transfers

A transfer that fails in part keeps for each committed task what its file said: the reports are in the
saved state and the bytes on the disk. When it is resumed to its end, all of it is as if it had not been
interrupted.
-/
namespace BulkTransfer

namespace Order

variable (o : Order)

/-- A task has committed what its file says, with these reports. -/
def Done (i : Nat) (input output : Report) (d : Disk) : Prop :=
  input = Document.empty ∧ ∃ path rows, o.files[i]? = some path ∧
    Ltsv.Tells o.source.options o.source.schema path rows d ∧
      (∀ v, o.delivery? i = some v → output = v.report ∧
        ∃ bytes, v.bytes rows = .ok bytes ∧ d.fileAt? v.path = some bytes) ∧
          (o.delivery? i = none → output = Counting.report rows.length)

def AreDone (slots : List TaskSlot) (d : Disk) : Prop :=
  ∀ (i : Nat) (input output : Report) (error : Option PluginError),
    slots[i]? = some ⟨some input, some output, error⟩ → o.Done i input output d

variable {o} {i : Nat} {input output input' output' : Report} {d d' : Disk} {terms : Terms}

section Stability

theorem Done.kept (h : o.Done i input output d)
    (read : ∀ path content, o.files[i]? = some path → d.fileAt? path = some content →
      d'.fileAt? path = some content)
    (written : ∀ v content, o.delivery? i = some v → d.fileAt? v.path = some content →
      d'.fileAt? v.path = some content) : o.Done i input output d' := by
  obtain ⟨empty, path, rows, given, ⟨content, held, told⟩, delivered, counted⟩ := h
  refine ⟨empty, path, rows, given, ⟨content, read path content given held, told⟩, ?_, counted⟩
  intro v hv
  obtain ⟨said, bytes, made, found⟩ := delivered v hv
  exact ⟨said, bytes, made, written v bytes hv found⟩

theorem Done.grows (h : o.Done i input output d) (grows : d.GrowsTo d') :
    o.Done i input output d' :=
  h.kept (fun _ _ _ => grows.fileAt?) fun _ _ _ => grows.fileAt?

theorem Done.agrees (h : o.Done i input output d) (apart : o.IsApart) {pending : List Nat}
    (inside : ∀ j ∈ pending, j < o.files.length) (other : i ∉ pending)
    (agrees : d.AgreesOn (fun l => ∀ j ∈ pending, ¬ o.Owns j l) d') :
    o.Done i input output d' := by
  have hi : i < o.files.length := by
    obtain ⟨-, path, rows, given, -⟩ := h
    exact (List.getElem?_eq_some_iff.mp given).1
  refine h.kept (fun path content given held => ?_) fun v content hv held => ?_
  · have spared : ∀ j ∈ pending, ¬ o.Owns j (Path.place path) :=
      fun j hj => apart.inputs j (inside j hj) path (List.mem_of_getElem? given)
    exact (agrees.fileAt? spared).trans held
  · have spared : ∀ j ∈ pending, ¬ o.Owns j (Path.place v.path) := by
      intro j hj
      have different : i ≠ j := fun same => other (same ▸ hj)
      exact apart.outputs i hi j (inside j hj) different _ ⟨v, hv, .inr rfl⟩
    exact (agrees.fileAt? spared).trans held

end Stability

theorem AreDone.grows {slots : List TaskSlot} (h : o.AreDone slots d) (grows : d.GrowsTo d') :
    o.AreDone slots d' :=
  fun i input output error slot => (h i input output error slot).grows grows

theorem IsApart.reads (apart : o.IsApart) {path : String} (given : o.files[i]? = some path) :
    (o.region terms i).read (Path.place path) :=
  ⟨⟨path, given, rfl⟩, fun j hj => apart.inputs j hj path (List.mem_of_getElem? given)⟩

theorem Settles.done {outcome : TaskOutcome} (h : o.Settles terms i outcome d) (apart : o.IsApart)
    (alone : terms.alone) {report : Report} (committed : outcome.outputReport = some report) :
    outcome.inputReport = some Document.empty ∧ o.Done i Document.empty report d := by
  rcases h with ⟨path, rows, report', given, rfl, ⟨kept, counted⟩, told⟩ | ⟨-, none, -⟩
  · cases committed
    refine ⟨rfl, rfl, path, rows, given, told (apart.reads given), fun v hv => ?_, counted⟩
    obtain ⟨said, holds⟩ := kept v hv
    obtain ⟨bytes, made, held⟩ := (holds alone).content
    exact ⟨said, bytes, made, Disk.fileAt?_eq.mpr ⟨(holds alone).way, held⟩⟩
  · rw [none] at committed
    cases committed

section Flights

variable {plugins : TransferPlugins} {config : Config} {b : plugins.IsBuiltIn config}
  {ordered : Order.ofConfig config o.files = .ok o} {spread : terms.alone → o.IsSpread}
  {pending : List Nat} {slots : List TaskSlot} {t : Flight} {w : World} {launch : Disk}

/-- Whatever becomes of a flight, tasks that were done before it stay so, and those that have
committed during it are done. -/
theorem areDone_of_course
    (course : (o.charter b ordered terms spread).Course pending launch t w) (apart : o.IsApart)
    (alone : terms.alone) (settled : t.Settled slots)
    (waits : ∀ i ∈ pending, ∃ slot, slots[i]? = some slot ∧ slot.isCommitted = false)
    (before : o.AreDone slots launch) : o.AreDone t.progress.slots w.disk := by
  intro i input output error slot
  cases started : t.progress.hasStarted with
  | false =>
    rw [(settled.idle started).1] at slot
    rw [course.idle started]
    exact before i input output error slot
  | true =>
    have bound : i < slots.length := by
      rw [← settled.length]
      exact (List.getElem?_eq_some_iff.mp slot).1
    have old := List.getElem?_eq_getElem bound
    cases committed : slots[i].isCommitted with
    | true =>
      have kept := (settled.kept i _ old committed).1
      rw [slot] at kept
      rw [← kept] at old
      have other : i ∉ pending := by
        intro hi
        obtain ⟨first, place, waited⟩ := waits i hi
        rw [old, Option.some.injEq] at place
        rw [← place] at waited
        cases waited
      exact (before i input output error old).agrees apart course.inside other course.frame
    | false =>
      obtain ⟨outcome, -, place, settles⟩ := course.slot settled started old committed
      rw [slot, Option.some.injEq, TaskSlot.mk.injEq] at place
      obtain ⟨reported, done⟩ := settles.done apart alone place.2.1.symm
      obtain rfl : input = Document.empty := Option.some.inj (place.1.trans reported)
      exact done

/-- What a saved state says of an order is on the disk. -/
structure Saved (o : Order) (s : ResumeState) (d : Disk) : Prop extends Executor.Keeps o s where
  done : o.AreDone (Progress.resumed s).slots d

/-- Between two attempts nobody changes the files of tasks that have committed: neither what they
have read nor what they have written. -/
def Spares (o : Order) (s : ResumeState) (d d' : Disk) : Prop :=
  ∀ i < o.files.length, s.isTaskCommitted i = true →
    (∀ path, o.files[i]? = some path → d'.fileAt? path = d.fileAt? path) ∧
      ∀ v, o.delivery? i = some v → d'.fileAt? v.path = d.fileAt? v.path

theorem input_kept (course : (o.charter b ordered terms spread).Course pending launch t w)
    (apart : o.IsApart) {path : String} (hm : path ∈ o.files) :
    w.disk.fileAt? path = launch.fileAt? path :=
  course.frame.fileAt? fun j hj => apart.inputs j (course.inside j hj) path hm

variable {s : ResumeState} {l : Landing}

theorem Saved.spared (h : o.Saved s d) (spared : o.Spares s d d') : o.Saved s d' where
  toKeeps := h.toKeeps
  done := by
    intro i input output error slot
    obtain ⟨inside, committed⟩ := Journey.resumed_slot slot rfl
    obtain ⟨read, written⟩ := spared i (h.count ▸ inside) committed
    exact (h.done i input output error slot).kept (fun path _ given held => (read path given).trans held)
      fun v _ hv held => (written v hv).trans held

theorem keeps_of_left (course : (o.charter b ordered terms spread).Course pending launch l.flight w)
    (left : l.resumeState? = some s) : Executor.Keeps o s := by
  obtain ⟨started, count, -⟩ := Progress.resumeState?_some left
  have frozen := course.frozen started
  obtain ⟨inputTask, inputSchema, outputTask, outputSchema⟩ := Progress.resumeState?_frozen left
  constructor
  · exact Option.some.inj (inputTask.symm.trans frozen.inputTask)
  · exact Option.some.inj (inputSchema.symm.trans frozen.inputSchema)
  · exact Option.some.inj (outputTask.symm.trans frozen.outputTask)
  · exact Option.some.inj (outputSchema.symm.trans frozen.outputSchema)
  · exact count.trans frozen.count

theorem saved_of_left (course : (o.charter b ordered terms spread).Course pending launch l.flight w)
    (settled : l.flight.Settled slots) (done : o.AreDone l.flight.progress.slots w.disk)
    (left : l.resumeState? = some s) : o.Saved s w.disk where
  toKeeps := keeps_of_left course left
  done := by
    obtain ⟨-, count, -⟩ := Progress.resumeState?_some left
    intro i input output error slot
    have bound : i < l.flight.progress.slots.length := by
      obtain ⟨inside, -⟩ := Journey.resumed_slot slot rfl
      rwa [count, settled.count, ← settled.length] at inside
    have old := List.getElem?_eq_getElem bound
    obtain ⟨_, same⟩ := List.getElem?_eq_some_iff.mp slot
    simp only [Progress.resumed, List.getElem_map, List.getElem_range,
      ResumeState.resumedSlot_eq left old] at same
    split at same
    · rcases held : l.flight.progress.slots[i] with ⟨input', output', error'⟩
      rw [held] at same old
      cases same
      exact done i input output _ old
    · cases same

end Flights

end Order

/-- The attempts of a transfer with the built-in plugins: the state that they have left, and the disk
after the last one. In between, others may change all files but those of committed tasks. -/
inductive Attempts (config : Config) (o : Order) : ResumeState → Disk → Prop where
  | begun {d : Departure} {w : World} {s : ResumeState} (finds : Executor.Finds config w o)
      (departs : Executor.departure Registry.builtIn config = .ok d)
      (left : (d.fly.run w).1.stateAfter none = some s) :
      Attempts config o s (d.fly.run w).2.disk
  | resumed {d : Departure} {w : World} {s s' : ResumeState} {disk : Disk}
      (before : Attempts config o s disk) (spared : o.Spares s disk w.disk)
      (resumes : Executor.resumption Registry.builtIn config s = .ok d)
      (left : (d.fly.run w).1.stateAfter (some s) = some s') :
      Attempts config o s' (d.fly.run w).2.disk

namespace Order

variable {o : Order} {l l' : Landing} {d d' : Disk} {i : Nat} {input output input' output' : Report}

/-- A transfer that has succeeded, with its slots and the reports that were handed over. -/
structure Complete (o : Order) (l : Landing) (d : Disk) : Prop where
  inputDiff : l.result = .ok (o.source.listing o.files).diff
  count : l.flight.progress.slots.length = o.files.length
  committed : ∀ (i : Nat) (slot : TaskSlot), l.flight.progress.slots[i]? = some slot →
    slot.isCommitted = true
  done : o.AreDone l.flight.progress.slots d
  reported : ∀ phase reports, .reported phase reports ∈ l.flight.events →
    l.flight.progress.slots.map (Progress.side phase) = reports.map some
  inputs : ∃ reports, .reported .input reports ∈ l.flight.events
  outputs : ∃ reports diff, .reported .output reports ∈ l.flight.events ∧
    o.destination.diff reports = .ok diff ∧ l.flight.outputDiff = some diff

/-- The reports that each side is handed are those of the tasks in their order. -/
structure InOrder (o : Order) (l : Landing) (d : Disk) (inputs outputs : List Report) : Prop where
  input_lists : ∀ reports, .reported .input reports ∈ l.flight.events ↔ reports = inputs
  output_lists : ∀ reports, .reported .output reports ∈ l.flight.events ↔ reports = outputs
  lengths : inputs.length = o.files.length ∧ outputs.length = o.files.length
  tasks : ∀ i input output, inputs[i]? = some input → outputs[i]? = some output →
    o.Done i input output d

section Complete

variable {plugins : TransferPlugins} {config : Config} {b : plugins.IsBuiltIn config}
  {ordered : Order.ofConfig config o.files = .ok o} {terms : Terms}
  {spread : terms.alone → o.IsSpread} {pending : List Nat} {slots : List TaskSlot} {w : World}
  {launch : Disk}

theorem complete_of_course
    (course : (o.charter b ordered terms spread).Course pending launch l.flight w)
    (settled : l.flight.Settled slots) (done : o.AreDone l.flight.progress.slots w.disk)
    {diff : Report} (result : l.result = .ok diff) (told : diff = (o.source.listing o.files).diff)
    (delivered : (o.charter b ordered terms spread).Delivered l.flight)
    (inputs : ∃ reports, .reported .input reports ∈ l.flight.events) : o.Complete l w.disk where
  inputDiff := told ▸ result
  count := by
    rw [settled.length, ← settled.count]
    exact (course.frozen delivered.1.1).count
  committed := fun _ _ => Progress.committed_of_failedCount delivered.1.2
  done := done
  reported := settled.reported
  inputs := inputs
  outputs := delivered.2

end Complete

theorem Complete.slot (h : o.Complete l d) (hi : i < o.files.length) : ∃ input output error,
    l.flight.progress.slots[i]? = some ⟨some input, some output, error⟩ ∧
      o.Done i input output d := by
  have bound : i < l.flight.progress.slots.length := h.count.symm ▸ hi
  have old := List.getElem?_eq_getElem bound
  have committed := h.committed i _ old
  rcases held : l.flight.progress.slots[i] with ⟨_ | input, _ | output, error⟩
  all_goals rw [held] at committed old
  · cases committed
  · cases committed
  · cases committed
  · exact ⟨input, output, error, old, h.done i input output error old⟩

/-- What a task has done depends on nothing but its file. -/
theorem Done.unique (h : o.Done i input output d) (h' : o.Done i input' output' d')
    (same : ∀ path ∈ o.files, ∃ content, d.fileAt? path = some content ∧
      d'.fileAt? path = some content) :
    input = input' ∧ output = output' ∧ ∀ v, o.delivery? i = some v →
      ∃ bytes, d.fileAt? v.path = some bytes ∧ d'.fileAt? v.path = some bytes := by
  obtain ⟨rfl, path, rows, given, ⟨content, held, told⟩, delivered, counted⟩ := h
  obtain ⟨rfl, path', rows', given', ⟨content', held', told'⟩, delivered', counted'⟩ := h'
  obtain rfl : path = path' := Option.some.inj (given.symm.trans given')
  obtain ⟨both, one, other⟩ := same path (List.mem_of_getElem? given)
  obtain rfl : content = both := Option.some.inj (held.symm.trans one)
  obtain rfl : content' = content := Option.some.inj (held'.symm.trans other)
  obtain rfl : rows = rows' := Except.ok.inj (told.symm.trans told')
  refine ⟨rfl, ?_, fun v hv => ?_⟩
  · cases delivers : o.delivery? i with
    | none => exact (counted delivers).trans (counted' delivers).symm
    | some v => exact (delivered v delivers).1.trans (delivered' v delivers).1.symm
  · obtain ⟨-, bytes, made, found⟩ := delivered v hv
    obtain ⟨-, bytes', made', found'⟩ := delivered' v hv
    obtain rfl : bytes = bytes' := Except.ok.inj (made.symm.trans made')
    exact ⟨bytes, found, found'⟩

section Comparison

variable (h : o.Complete l d) (h' : o.Complete l' d')
  (same : ∀ path ∈ o.files, ∃ content, d.fileAt? path = some content ∧
    d'.fileAt? path = some content)

include h in
theorem Complete.reports {phase : TaskPhase} {reports reports' : List Report}
    (given : .reported phase reports ∈ l.flight.events)
    (given' : l.flight.progress.slots.map (Progress.side phase) = reports'.map some) :
    reports = reports' := by
  have told := (h.reported phase reports given).symm.trans given'
  exact List.map_injective_iff.mpr (Option.some_injective _) told

include h h' same in
theorem Complete.sides (phase : TaskPhase) :
    l.flight.progress.slots.map (Progress.side phase) =
      l'.flight.progress.slots.map (Progress.side phase) := by
  refine List.ext_getElem? fun i => ?_
  rw [List.getElem?_map, List.getElem?_map]
  by_cases hi : i < o.files.length
  · obtain ⟨input, output, error, slot, done⟩ := h.slot hi
    obtain ⟨input', output', error', slot', done'⟩ := h'.slot hi
    obtain ⟨rfl, rfl, -⟩ := done.unique done' same
    rw [slot, slot']
    cases phase <;> rfl
  · rw [List.getElem?_eq_none (h.count ▸ Nat.le_of_not_lt hi),
      List.getElem?_eq_none (h'.count ▸ Nat.le_of_not_lt hi)]

include h in
theorem Complete.inOrder : ∃ inputs outputs, o.InOrder l d inputs outputs := by
  obtain ⟨inputs, given⟩ := h.inputs
  obtain ⟨outputs, -, given', -⟩ := h.outputs
  have told := h.reported .input inputs given
  have told' := h.reported .output outputs given'
  refine ⟨inputs, outputs, fun reports => ⟨fun hr => h.reports hr told, fun same => same ▸ given⟩,
    fun reports => ⟨fun hr => h.reports hr told', fun same => same ▸ given'⟩, ⟨?_, ?_⟩, ?_⟩
  · simpa [h.count] using (congrArg List.length told).symm
  · simpa [h.count] using (congrArg List.length told').symm
  · intro i input output hi ho
    have side := congrArg (·[i]?) told
    have side' := congrArg (·[i]?) told'
    simp only [List.getElem?_map, hi, ho, Option.map_some] at side side'
    cases slot : l.flight.progress.slots[i]? with
    | none => simp [slot] at side
    | some held =>
      obtain ⟨a, b, error⟩ := held
      simp only [slot, Option.map_some, Option.some.injEq, Progress.side] at side side'
      subst side side'
      exact h.done i input output error slot

include h h' same in
/-- Complete transfers from the same files hand over the same reports. -/
theorem Complete.inOrder_of {inputs outputs : List Report} (order : o.InOrder l' d' inputs outputs) :
    o.InOrder l d inputs outputs := by
  obtain ⟨own, own', others⟩ := h.inOrder
  have sides := fun phase reports' given => (h.sides h' same phase).trans (h'.reported phase reports' given)
  obtain rfl := h.reports ((others.input_lists own).mpr rfl)
    (sides .input inputs ((order.input_lists inputs).mpr rfl))
  obtain rfl := h.reports ((others.output_lists own').mpr rfl)
    (sides .output outputs ((order.output_lists outputs).mpr rfl))
  exact others

include h h' same in
theorem Complete.outputDiff : l.flight.outputDiff = l'.flight.outputDiff := by
  obtain ⟨reports, diff, given, made, told⟩ := h.outputs
  obtain ⟨reports', diff', given', made', told'⟩ := h'.outputs
  have sides := (h.sides h' same .output).trans (h'.reported .output reports' given')
  obtain rfl := h.reports given sides
  rw [told, told', Except.ok.inj (made.symm.trans made')]

end Comparison

end Order

namespace Attempts

variable {config : Config} {o : Order} {s : ResumeState} {disk : Disk} {d : Departure} {w : World}

/-- Outputs have places of their own; nothing else is known. -/
def terms (d : Departure) : Terms :=
  ⟨True, False, False, (Pool.ofPageSize d.exec.pageSize).pageSize, fun h => h.elim⟩

theorem fits_of_apart (apart : o.IsApart) (d : Departure) : o.Fits (terms d) w :=
  ⟨fun _ => apart.spread, fun h => h.elim, fun h => (h.elim id id).elim, fun h => h.elim⟩

/-- How the first attempt goes, when it launches tasks or succeeds. -/
theorem first_leads (finds : Executor.Finds config w o) (apart : o.IsApart)
    (departs : Executor.departure Registry.builtIn config = .ok d)
    (reached : (d.fly.run w).1.flight.progress.hasStarted = true ∨
      ∃ diff, (d.fly.run w).1.result = .ok diff) :
    ∃ (plugins : TransferPlugins) (b : plugins.IsBuiltIn config) (slots : List TaskSlot)
      (pending : List Nat), (∃ launch, w.disk.GrowsTo launch ∧
        (o.charter b finds.ordered (terms d) fun _ => apart.spread).Course pending launch
          (d.fly.run w).1.flight (d.fly.run w).2) ∧ (d.fly.run w).1.flight.Settled slots ∧
        o.AreDone (d.fly.run w).1.flight.progress.slots (d.fly.run w).2.disk ∧
          ∀ diff, (d.fly.run w).1.result = .ok diff → diff = (o.source.listing o.files).diff ∧
            (o.charter b finds.ordered (terms d) fun _ => apart.spread).Delivered
              (d.fly.run w).1.flight ∧
                ∃ reports, .reported .input reports ∈ (d.fly.run w).1.flight.events := by
  obtain ⟨_, _, plugins, resolved, -⟩ := Executor.departure_ok departs
  have b := TransferPlugins.resolve_builtIn resolved
  obtain ⟨count, settled⟩ := Executor.departure_settles departs w
  have fits : ∀ o', Executor.Finds config w o' → o'.Fits (terms d) w := by
    intro o' finds'
    obtain rfl := finds.unique finds'
    exact fits_of_apart apart d
  rcases Executor.departure_leads departs resolved b
      (Executor.silent_of_ordered finds.ordered) rfl fits with
    ⟨⟨e, failed⟩, idle, -⟩ | ⟨o', finds', pending, launch, grows, -, course, started, ends⟩
  · rcases reached with started | ⟨diff, result⟩
    · exact absurd (idle.unstarted.symm.trans started) (by simp)
    · exact absurd (failed.symm.trans result) (by simp)
  · obtain rfl := finds.unique finds'
    refine ⟨plugins, b, _, pending, ⟨launch, grows, course⟩, settled, ?_, ends⟩
    obtain rfl : count = o.files.length := by
      have same := settled.count.symm.trans (course.frozen started).count
      rwa [List.length_replicate] at same
    refine Order.areDone_of_course course apart trivial settled (fun i hi => ⟨.blank, ?_, rfl⟩) ?_
    · exact List.getElem?_replicate_of_lt (course.inside i hi)
    · intro i input output error slot
      obtain ⟨_, same⟩ := List.getElem?_eq_some_iff.mp slot
      rw [List.getElem_replicate] at same
      cases same

theorem next_leads (saved : o.Saved s w.disk) (ordered : Order.ofConfig config o.files = .ok o)
    (apart : o.IsApart) (resumes : Executor.resumption Registry.builtIn config s = .ok d) :
    ∃ (plugins : TransferPlugins) (b : plugins.IsBuiltIn config), (∃ launch,
      w.disk.GrowsTo launch ∧ (o.charter b ordered (terms d) fun _ => apart.spread).Course
        (Progress.resumed s).pendingTasks launch (d.fly.run w).1.flight (d.fly.run w).2) ∧
        (d.fly.run w).1.flight.Settled (Progress.resumed s).slots ∧
          o.AreDone (d.fly.run w).1.flight.progress.slots (d.fly.run w).2.disk ∧
            ∀ diff, (d.fly.run w).1.result = .ok diff → diff = (o.source.listing o.files).diff ∧
              (o.charter b ordered (terms d) fun _ => apart.spread).Delivered
                (d.fly.run w).1.flight ∧
                  ∃ reports, .reported .input reports ∈ (d.fly.run w).1.flight.events := by
  obtain ⟨_, plugins, resolved, -⟩ := Executor.resumption_ok resumes
  have b := TransferPlugins.resolve_builtIn resolved
  have settled := Executor.resumption_settles resumes w
  obtain ⟨⟨launch, grows, course⟩, ends⟩ := Executor.resumption_leads resumes resolved b ordered
    saved.toKeeps rfl (fits_of_apart apart d)
  refine ⟨plugins, b, ⟨launch, grows, course⟩, settled, ?_, ends⟩
  exact Order.areDone_of_course course apart trivial settled
    (fun i hi => Progress.mem_pendingTasks.mp hi) (saved.done.grows grows)

theorem ordered (attempts : Attempts config o s disk) : Order.ofConfig config o.files = .ok o := by
  induction attempts with
  | begun finds departs left => exact finds.ordered
  | resumed before spared resumes left ih => exact ih

theorem saved (attempts : Attempts config o s disk) (apart : o.IsApart) : o.Saved s disk := by
  induction attempts with
  | @begun d w s finds departs left =>
    rcases Landing.stateAfter_some left with left | ⟨-, none⟩
    · obtain ⟨plugins, b, slots, pending, ⟨_, -, course⟩, settled, done, -⟩ :=
        first_leads finds apart departs (.inl (Progress.resumeState?_some left).1)
      exact Order.saved_of_left course settled done left
    · cases none
  | @resumed d w s s' disk before spared resumes left ih =>
    have saved := ih.spared spared
    obtain ⟨plugins, b, ⟨_, -, course⟩, settled, done, -⟩ :=
      next_leads saved before.ordered apart resumes
    rcases Landing.stateAfter_some left with left | ⟨none, same⟩
    · exact Order.saved_of_left course settled done left
    · cases same
      rw [(settled.idle (Landing.unstarted_of_none settled none)).1] at done
      exact ⟨saved.toKeeps, done⟩

end Attempts

section Interruptions

/-- A transfer that is interrupted, what others make of its disk, and the disk of one beside it that
is not interrupted. Both find the same files. -/
structure Interruption where
  config : Config
  files : List String
  start : Disk
  correct : Disk → Disk
  whole : Disk

namespace Interruption

variable (t : Interruption)

def search : LocalInput.Search := ⟨"in/", none⟩

def leave (check : Order → Disk → Disk → Bool) : Bool :=
  (Order.ofConfig t.config t.files).toOption.any fun o =>
    o.source.search.start == "in/" && o.source.search.lastPath.isNone &&
    leaves t.config search t.files (.ofDisk t.start.counted) fun l w =>
      (l.stateAfter none).any fun s =>
        let disk := t.correct w.disk
        ((List.range t.files.length).all fun i => !s.isTaskCommitted i ||
          t.files[i]?.all (fun path => disk.fileAt? path == w.disk.fileAt? path) &&
            (o.delivery? i).all fun v => disk.fileAt? v.path == w.disk.fileAt? v.path) &&
        (t.files.all fun path =>
          (disk.fileAt? path).isSome && disk.fileAt? path == t.whole.fileAt? path) &&
        (Executor.resumption Registry.builtIn t.config s).toOption.any fun d =>
          let ran := d.fly.run (.ofDisk disk)
          ran.1.result.toOption.isSome &&
            leaves t.config search t.files (.ofDisk t.whole.counted) fun l' w' =>
              l'.result.toOption.isSome && check o ran.2.disk w'.disk

/-- An attempt, its resumption from the corrected disk and the transfer beside it. -/
structure Course where
  order : Order
  state : ResumeState
  disk : Disk
  resumed : Departure
  direct : Departure
  result : ExecutionResult
  result' : ExecutionResult

/-- The resumption and the transfer beside it succeed, from the same files. -/
structure Course.Meets (c : Course) (t : Interruption) : Prop where
  files : c.order.files = t.files
  attempts : Attempts t.config c.order c.state c.disk
  spared : c.order.Spares c.state c.disk (t.correct c.disk)
  resumes : Executor.resumption Registry.builtIn t.config c.state = .ok c.resumed
  succeeds : (c.resumed.fly.run (.ofDisk (t.correct c.disk))).1.conclude = .ok c.result
  finds : Executor.Finds t.config (.ofDisk t.whole) c.order
  departs : Executor.departure Registry.builtIn t.config = .ok c.direct
  succeeds' : (c.direct.fly.run (.ofDisk t.whole)).1.conclude = .ok c.result'
  same : ∀ path ∈ c.order.files, ∃ content, (t.correct c.disk).fileAt? path = some content ∧
    t.whole.fileAt? path = some content

theorem concluded {l : Landing} (h : l.result.toOption.isSome = true) : ∃ r, l.conclude = .ok r := by
  cases result : l.result with
  | error e =>
    rw [result] at h
    cases h
  | ok diff => exact ⟨_, Landing.conclude_ok result⟩

variable {t} {check : Order → Disk → Disk → Bool}

theorem leave_meets (listed : LocalInput.list search t.start = (.ok t.files, t.start.counted))
    (listed' : LocalInput.list search t.whole = (.ok t.files, t.whole.counted))
    (h : t.leave check = true) : ∃ c : Course, c.Meets t ∧
      check c.order (c.resumed.fly.run (.ofDisk (t.correct c.disk))).2.disk
        (c.direct.fly.run (.ofDisk t.whole)).2.disk = true := by
  unfold leave at h
  cases ordered : Order.ofConfig t.config t.files with
  | error e => simp [ordered, Except.toOption] at h
  | ok o =>
    simp only [ordered, Except.toOption, Option.any_some, Bool.and_eq_true, beq_iff_eq,
      Option.isNone_iff_eq_none] at h
    obtain ⟨⟨start, fresh⟩, h⟩ := h
    have files := (Order.ofConfig_ok ordered).1
    have finds : ∀ disk : Disk, LocalInput.list search disk = (.ok t.files, disk.counted) →
        Executor.Finds t.config (.ofDisk disk) o := by
      intro disk found
      have same : o.source.search = search := by
        rw [search, ← start, ← fresh]
      refine ⟨files ▸ ordered, ?_⟩
      rw [World.ofDisk, same, found, files]
    obtain ⟨d₁, departs₁, h⟩ := leaves_ends (w := .ofDisk t.start) listed h
    cases left : (d₁.fly.run (.ofDisk t.start)).1.stateAfter none with
    | none => simp [left] at h
    | some s =>
      cases resumes : Executor.resumption Registry.builtIn t.config s with
      | error e => simp [left, resumes] at h
      | ok d =>
        simp only [left, resumes, Option.any_some, Bool.and_eq_true,
          List.all_eq_true, List.mem_range, beq_iff_eq] at h
        obtain ⟨⟨spared, same⟩, succeeds, h⟩ := h
        obtain ⟨d', departs, h⟩ := leaves_ends (w := .ofDisk t.whole) listed' h
        rw [Bool.and_eq_true] at h
        obtain ⟨r, told⟩ := concluded succeeds
        obtain ⟨r', told'⟩ := concluded h.1
        refine ⟨⟨o, s, _, d, d', r, r'⟩, ⟨files, .begun (finds _ listed) departs₁ left, ?_, resumes,
          told, finds _ listed', departs, told', ?_⟩, h.2⟩
        · intro i hi done
          have kept := spared i (files ▸ hi)
          rw [done] at kept
          simp only [Bool.not_true, Bool.false_or, Bool.and_eq_true] at kept
          refine ⟨fun path given => ?_, fun v hv => ?_⟩
          · have read := kept.1
            rw [← files, given] at read
            exact beq_iff_eq.mp read
          · have written := kept.2
            rw [hv] at written
            exact beq_iff_eq.mp written
        · intro path hm
          obtain ⟨some, equal⟩ := same path (files ▸ hm)
          obtain ⟨content, held⟩ := Option.isSome_iff_exists.mp some
          exact ⟨content, held, equal ▸ held⟩

def corrected (d : Disk) : Disk := d.putNode ["in", "1"] (.file (firstFile true))

/-- The second of two files is copied, the first one is corrected, and the copy is resumed. -/
def correctedCopies (ending : String) : Interruption :=
  ⟨copying ending, ["in/1", "in/2"], twoFiles false, corrected, twoFiles true⟩

/-- Values are copied without a header, next to the files that they are read from. -/
def copyingBeside : Config :=
  ⟨[("in", .obj [("type", .str "file"), ("path_prefix", .str "in/"),
      ("parser", .obj [("type", .str "ltsv"),
        ("columns", .arr [.obj [("name", .str "a"), ("type", .str "string")]])])]),
    ("out", .obj [("type", .str "file"), ("path_prefix", .str "in/o"), ("file_ext", .str "csv"),
      ("formatter", .obj [("type", .str "csv"), ("header_line", .bool false)])]),
    ("exec", .obj [("max_threads", .ofNat 1)])]⟩

/-- The first of two files is in the place of its own output, where its copy may be already. -/
def besideOutputs (copied : Bool) : Disk :=
  ⟨[(["in"], .directory),
    (["in", "o000.00.csv"], .file (Utf8.encode (if copied then "a:7\r\n" else "a:a:7\n"))),
    (["in", "z"], .file (firstFile copied))], 0, fun _ _ => none⟩

theorem besideOutputs_listed (copied : Bool) : LocalInput.list search (besideOutputs copied) =
    (.ok ["in/o000.00.csv", "in/z"], (besideOutputs copied).counted) := by
  have found : LocalInput.listWithin "in/" ((besideOutputs copied).nodes.length + 2)
      (besideOutputs copied) [LocalInput.rootOf "in/"] [] =
        (.ok ["in/o000.00.csv", "in/z"], (besideOutputs copied).counted) := by
    cases copied <;> rfl
  exact LocalInput.list_found (s := search) found (by decide)

/-- The first of two files is replaced by its copy, and the second one is corrected. A direct transfer
copies that copy. -/
def copiesBeside : Interruption :=
  ⟨copyingBeside, ["in/o000.00.csv", "in/z"], besideOutputs false,
    (·.putNode ["in", "z"] (.file (firstFile true))), besideOutputs true⟩

end Interruption

end Interruptions

namespace Attempts

variable {config : Config} {o : Order} {s : ResumeState} {disk : Disk} {d : Departure} {w : World}

/-- However many attempts have failed before, whatever tasks failed in them and in whatever order: a
transfer that is resumed to its end has the diff, the outputs and the reports of one that finds the
same files and is not interrupted. No output may be in the place of another or of an input. -/
theorem resumed_run_ends_as_uninterrupted (attempts : Attempts config o s disk) (apart : o.IsApart)
    (spared : o.Spares s disk w.disk)
    (resumes : Executor.resumption Registry.builtIn config s = .ok d) {r : ExecutionResult}
    (succeeds : (d.fly.run w).1.conclude = .ok r) {u : World} (finds : Executor.Finds config u o)
    {d' : Departure} (departs : Executor.departure Registry.builtIn config = .ok d')
    {r' : ExecutionResult} (succeeds' : (d'.fly.run u).1.conclude = .ok r')
    (same : ∀ path ∈ o.files, ∃ content, w.disk.fileAt? path = some content ∧
      u.disk.fileAt? path = some content) :
    r.diff = r'.diff ∧
      (∀ i < o.files.length, ∀ v, o.delivery? i = some v → ∃ bytes,
        (d.fly.run w).2.disk.fileAt? v.path = some bytes ∧
          (d'.fly.run u).2.disk.fileAt? v.path = some bytes) ∧
        ∃ inputs outputs, o.InOrder (d.fly.run w).1 (d.fly.run w).2.disk inputs outputs ∧
          o.InOrder (d'.fly.run u).1 (d'.fly.run u).2.disk inputs outputs := by
  obtain ⟨diff, result, total⟩ := Landing.result_of_conclude succeeds
  obtain ⟨diff', result', total'⟩ := Landing.result_of_conclude succeeds'
  obtain ⟨plugins, b, ⟨launch, grows, course⟩, settled, done, ends⟩ :=
    next_leads ((attempts.saved apart).spared spared) attempts.ordered apart resumes
  obtain ⟨told, delivered, inputs⟩ := ends diff result
  have complete := Order.complete_of_course course settled done result told delivered inputs
  obtain ⟨plugins', b', _, _, ⟨launch', grows', course'⟩, settled', done', ends'⟩ :=
    first_leads finds apart departs (.inr ⟨diff', result'⟩)
  obtain ⟨told', delivered', inputs'⟩ := ends' diff' result'
  have complete' := Order.complete_of_course course' settled' done' result' told' delivered' inputs'
  have kept : ∀ path ∈ o.files, ∃ content, (d.fly.run w).2.disk.fileAt? path = some content ∧
      (d'.fly.run u).2.disk.fileAt? path = some content := by
    intro path hm
    obtain ⟨content, held, held'⟩ := same path hm
    exact ⟨content, (Order.input_kept course apart hm).trans (grows.fileAt? held),
      (Order.input_kept course' apart hm).trans (grows'.fileAt? held')⟩
  refine ⟨?_, fun i hi v hv => ?_, ?_⟩
  · rw [total, total', told, told', complete.outputDiff complete' kept]
  · obtain ⟨input, output, error, -, task⟩ := complete.slot hi
    obtain ⟨input', output', error', -, task'⟩ := complete'.slot hi
    exact (task.unique task' kept).2.2 v hv
  · obtain ⟨inputs, outputs, order⟩ := complete'.inOrder
    exact ⟨inputs, outputs, complete.inOrder_of complete' kept order, order⟩

open Interruption in
/-- The copy of a corrected file ends as if the file had been right at once. -/
theorem corrected_copy_ends_as_uninterrupted : ∃ c : Course, c.Meets (correctedCopies "csv") ∧
    c.order.IsApart ∧ c.result.diff = c.result'.diff ∧
      ∀ i < c.order.files.length, ∀ v, c.order.delivery? i = some v → ∃ bytes,
        (c.resumed.fly.run (.ofDisk (corrected c.disk))).2.disk.fileAt? v.path = some bytes ∧
          (c.direct.fly.run (.ofDisk (twoFiles true))).2.disk.fileAt? v.path = some bytes := by
  obtain ⟨c, meets, -⟩ := @leave_meets (correctedCopies "csv") (fun _ _ _ => true)
    (twoFiles_listed false) (twoFiles_listed true) (by decide +kernel)
  have writes : WritesFiles (copying "csv") ⟨"o", "csv"⟩ := ⟨_, rfl, rfl, rfl⟩
  obtain ⟨_, _, _, _, -, -, -, files⟩ := Order.destination_files meets.finds.ordered writes
  have apart : c.order.IsApart := by
    refine Order.isApart_files files (LocalOutput.Naming.apart_of_ending (by decide) _) ?_
    rw [meets.files]
    decide +kernel
  obtain ⟨diff, held, -⟩ := resumed_run_ends_as_uninterrupted meets.attempts apart meets.spared
    meets.resumes meets.succeeds meets.finds meets.departs meets.succeeds' meets.same
  exact ⟨c, meets, apart, diff, held⟩

open Interruption in
/-- Outputs in one place, or in that of an input, may end otherwise when a transfer is resumed. -/
theorem copies_in_shared_places_end_otherwise :
    (∃ c : Course, c.Meets (correctedCopies "d/../x") ∧ ∃ v, c.order.delivery? 0 = some v ∧
      (c.resumed.fly.run (.ofDisk (corrected c.disk))).2.disk.fileAt? v.path ≠
        (c.direct.fly.run (.ofDisk (twoFiles true))).2.disk.fileAt? v.path) ∧
    ∃ c : Course, c.Meets copiesBeside ∧ ∃ v, c.order.delivery? 0 = some v ∧
      (c.resumed.fly.run (.ofDisk (copiesBeside.correct c.disk))).2.disk.fileAt? v.path ≠
        (c.direct.fly.run (.ofDisk copiesBeside.whole)).2.disk.fileAt? v.path := by
  have differ : ∀ t : Interruption, LocalInput.list search t.start = (.ok t.files, t.start.counted) →
      LocalInput.list search t.whole = (.ok t.files, t.whole.counted) →
        t.leave (fun o disk disk' => (o.delivery? 0).any fun v =>
          disk.fileAt? v.path != disk'.fileAt? v.path) = true →
          ∃ c : Course, c.Meets t ∧ ∃ v, c.order.delivery? 0 = some v ∧
            (c.resumed.fly.run (.ofDisk (t.correct c.disk))).2.disk.fileAt? v.path ≠
              (c.direct.fly.run (.ofDisk t.whole)).2.disk.fileAt? v.path := by
    intro t listed listed' h
    obtain ⟨c, meets, h⟩ := leave_meets listed listed' h
    cases delivers : c.order.delivery? 0 with
    | none => simp [delivers] at h
    | some v =>
      rw [delivers, Option.any_some] at h
      exact ⟨c, meets, v, delivers, bne_iff_ne.mp h⟩
  constructor
  · exact differ (correctedCopies "d/../x") (twoFiles_listed false) (twoFiles_listed true)
      (by decide +kernel)
  · exact differ copiesBeside (besideOutputs_listed false) (besideOutputs_listed true)
      (by decide +kernel)

end Attempts

end BulkTransfer
