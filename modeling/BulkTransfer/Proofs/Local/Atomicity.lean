import Mathlib.Data.List.Induction
import Mathlib.Data.List.ModifyLast
import BulkTransfer.Proofs.Disk.Removal
import BulkTransfer.Proofs.Local.Naming
import BulkTransfer.Proofs.Plugin.Sink
/-!
# All files of a task, or none

A task writes its files one after the other, each beside its final path, and the commit moves them into
place one by one. Whichever access is refused, an abort finds all that the task has left: the files that
are still beside their final paths, and those that were moved already. What has been written is only
certain as long as the files are written to places of their own; where they are not, a file is missing when
it is to be moved, so that the commit fails.
-/
namespace BulkTransfer

/-- A call on a file output before its commit. -/
inductive FileStep where
  | nextFile
  | add (data : Bytes)
  | finish

namespace FileSink

variable {σ : Type}

def take (k : FileSink σ) : FileStep → Call σ Unit
  | .nextFile => k.nextFile
  | .add data => k.add data
  | .finish => k.finish

/-- All calls in turn, up to the first one that fails. -/
def takeAll (k : FileSink σ) : List FileStep → Call σ Unit
  | [] => pure ()
  | step :: rest => do
    k.take step
    takeAll k rest

/-- The calls, and the commit behind them. -/
def deliver (k : FileSink σ) (steps : List FileStep) : Call σ Report := do
  k.takeAll steps
  k.commit

end FileSink

namespace LocalOutput

open Disk (AgreesOn)

/-- A file of a task, by its final path. -/
structure TaskFile where
  path : String
  content : Bytes
  deriving DecidableEq, Repr

/-- The files of a task behind a call on its output: data belongs to the latest one. -/
def filesAfter (n : Naming) (task : Nat) (files : List TaskFile) : FileStep → List TaskFile
  | .nextFile => files ++ [⟨n.path task files.length, []⟩]
  | .add data => files.modifyLast fun f => { f with content := f.content ++ data }
  | .finish => files

/-- The files that the calls make, in the order in which they are begun. -/
def filesOf (n : Naming) (task : Nat) (steps : List FileStep) : List TaskFile :=
  steps.foldl (filesAfter n task) []

def pathsOf (files : List TaskFile) : List String := files.map (·.path)

theorem filesAfter_paths {n : Naming} {task : Nat} {files : List TaskFile}
    (h : pathsOf files = (List.range files.length).map (n.path task)) (step : FileStep) :
    pathsOf (filesAfter n task files step) =
      (List.range (filesAfter n task files step).length).map (n.path task) := by
  unfold pathsOf at h ⊢
  cases step with
  | nextFile => simp [filesAfter, h, List.range_succ]
  | add data =>
    rcases List.eq_nil_or_concat files with rfl | ⟨front, f, rfl⟩
    · exact h
    · rw [List.concat_eq_append] at h ⊢
      rw [filesAfter, List.modifyLast_concat]
      simpa using h
  | finish => exact h

/-- The files of a task have their paths by their numbers. -/
theorem filesOf_paths (n : Naming) (task : Nat) (steps : List FileStep) :
    pathsOf (filesOf n task steps) = (List.range (filesOf n task steps).length).map (n.path task) := by
  unfold filesOf
  induction steps using List.reverseRecOn with
  | nil => rfl
  | append_singleton steps step ih =>
    rw [List.foldl_append]
    exact filesAfter_paths ih step

/-- All files are in place, and nothing else has changed. -/
structure Delivered (files : List TaskFile) (report : Report) (before after : Disk) : Prop where
  report : report = Document.empty.set "files" (.arr ((pathsOf files).map .str))
  content : ∀ f ∈ files, after.fileAt? f.path = some f.content
  moved : ∀ f ∈ files, after.IsGone (tempPath f.path)
  rest : AgreesOn (fun l => ∀ f ∈ files, l ≠ Path.place (tempPath f.path) ∧ l ≠ Path.place f.path)
    before after

/-- Places that are neither beside the paths nor those of what was moved. -/
def Elsewhere (paths placed : List String) (l : Location) : Prop :=
  (∀ path ∈ paths, l ≠ Path.place (tempPath path)) ∧ ∀ path ∈ placed, l ≠ Path.place path

/-- Nothing is left of the files of a task that failed with some of them moved, and nothing else has
changed. -/
structure TakenBack (paths : List String) (failed : Writing) (before after : Disk) : Prop where
  begun : failed.placed ++ failed.pending = paths
  temps : ∀ path ∈ paths, after.IsGone (tempPath path)
  finals : ∀ path ∈ failed.placed, after.IsGone path
  rest : AgreesOn (Elsewhere paths failed.placed) before after

/-- What a task has on the disk: files that it has begun, some of them moved into place. -/
structure Leaves (paths : List String) (w : Writing) (before now : Disk) : Prop where
  begun : w.placed ++ w.pending = paths
  temps : ∀ path ∈ paths, now.Admits (tempPath path)
  finals : ∀ path ∈ w.placed, now.Admits path
  moved : ∀ path ∈ w.placed, now.IsVacant (Path.place (tempPath path))
  rest : AgreesOn (Elsewhere paths w.placed) before now

/-- The files are written to places of their own. -/
def Distinct (paths : List String) : Prop :=
  paths.Pairwise fun p q => Path.place (tempPath p) ≠ Path.place (tempPath q)

/-- All files are beside their final paths; the latest one may be open. -/
structure Writes (files : List TaskFile) (w : Writing) (before now : Disk) : Prop
    extends Leaves (pathsOf files) w before now where
  unplaced : w.placed = []
  handle : ∀ temp, w.openPath = some temp → ∃ front f, files = front ++ [f] ∧ temp = tempPath f.path
  held : Distinct (pathsOf files) →
    ∀ f ∈ files, now.node? (Path.place (tempPath f.path)) = some (.file f.content)

variable {n : Naming} {task : Nat} {files front : List TaskFile} {f : TaskFile} {w : Writing}
  {paths : List String} {before now after : Disk}

section Writing

theorem Writes.begin (d : Disk) : Writes [] .blank d d where
  begun := rfl
  temps := by simp [pathsOf]
  finals := by simp [Writing.blank]
  moved := by simp [Writing.blank]
  rest := .refl _ d
  unplaced := rfl
  handle := by simp [Writing.blank]
  held := by simp

theorem Writes.pending (h : Writes files w before now) : w.pending = pathsOf files := by
  rw [← h.begun, h.unplaced, List.nil_append]

/-- Whatever is done to the files that are written, they can still be taken back. -/
theorem Writes.leaves (h : Writes files w before now)
    (changed : AgreesOn (fun l => ∀ path ∈ pathsOf files, l ≠ Path.place (tempPath path)) now after) :
    Leaves (pathsOf files) w before after where
  begun := h.begun
  temps := fun f hf => (h.temps f hf).agrees changed
  finals := by simp [h.unplaced]
  moved := by simp [h.unplaced]
  rest := h.rest.trans (changed.mono fun _ hl => hl.1)

theorem Writes.closed (h : Writes files w before now) :
    Writes files { w with openPath := none } before now :=
  { h with handle := by simp }

theorem runsTo_onDisk {α : Type} {operation : Disk → Except IoError α × Disk}
    {fault : IoError → PluginError} {good : α → Writing → Disk → Prop} {bad : Writing → Disk → Prop}
    (ok : ∀ a, (operation now).1 = .ok a → good a w (operation now).2)
    (error : ∀ e, (operation now).1 = .error e → bad w (operation now).2) :
    (onDisk operation fault).RunsTo w now good bad := by
  rintro world rfl
  have runs : ((onDisk operation fault).attempt w).run world =
      (((operation world.disk).1.mapError fault, w),
        { world with disk := (operation world.disk).2 }) := rfl
  rw [runs]
  cases result : (operation world.disk).1 with
  | ok a => exact ok a result
  | error e => exact error e result

/-- Data goes behind what the latest file holds. -/
theorem append_runsTo (data : Bytes) (h : Writes (front ++ [f]) w before now) :
    (onDisk (·.append (tempPath f.path) data) .io).RunsTo w now
      (fun _ w' now' => w' = w ∧
        Writes (front ++ [{ f with content := f.content ++ data }]) w' before now')
        fun w' => Leaves (pathsOf (front ++ [f])) w' before := by
  obtain ⟨changed, -, grown⟩ := now.append_spec (tempPath f.path) data
  have paths : pathsOf (front ++ [{ f with content := f.content ++ data }]) = pathsOf (front ++ [f]) := by
    simp [pathsOf]
  have last : f.path ∈ pathsOf (front ++ [f]) := by simp [pathsOf]
  have leaves := h.leaves (changed.mono fun l other => other f.path last)
  refine runsTo_onDisk (fun _ ok => ?_) fun _ _ => leaves
  refine ⟨rfl, paths ▸ leaves, h.unplaced, fun temp isOpen => ?_, fun distinct g hg => ?_⟩
  · obtain ⟨front', f', same, rfl⟩ := h.handle temp isOpen
    obtain ⟨-, last⟩ := List.append_inj' same rfl
    obtain rfl := List.singleton_inj.mp last
    exact ⟨front, _, rfl, rfl⟩
  · -- files at one place would all grow, so the others keep their content only if they are elsewhere
    rw [paths] at distinct
    have held := h.held distinct
    rw [Distinct, pathsOf, List.map_append, List.map_singleton, List.pairwise_append] at distinct
    rcases List.mem_append.mp hg with hg | hg
    · have other := distinct.2.2 g.path (List.mem_map_of_mem hg) f.path (List.mem_singleton_self _)
      exact (changed.node _ other).trans (held g (List.mem_append_left _ hg))
    · obtain rfl := List.mem_singleton.mp hg
      exact grown ok (h.temps _ last).1 _ (held f (List.mem_append_right _ (List.mem_singleton_self f)))

/-- A file is closed with what it holds. -/
theorem flush_runsTo (h : Writes files w before now) : flushFile.RunsTo w now
    (fun _ w' now' => w' = { w with openPath := none } ∧ Writes files w' before now')
      fun w' => Leaves (pathsOf files) w' before := by
  refine Call.runsTo_get ?_
  cases handle : w.openPath with
  | none => exact Call.runsTo_pure ⟨by rw [← handle], h⟩
  | some temp =>
    obtain ⟨front, f, rfl, rfl⟩ := h.handle temp handle
    refine Call.runsTo_modify ?_
    refine (append_runsTo [] h.closed).mono ?_ fun _ _ left => left
    rintro _ w' now' ⟨rfl, writes⟩
    simp only [List.append_nil] at writes
    exact ⟨rfl, writes⟩

/-- A file was made beside its final path, and is open. -/
theorem Writes.next {path : String} (h : Writes files w before now)
    (changed : AgreesOn (· ≠ Path.place (tempPath path)) now after)
    (way : after.LeadsTo (tempPath path))
    (empty : after.node? (Path.place (tempPath path)) = some (.file [])) :
    Writes (files ++ [⟨path, []⟩])
      { w with openPath := some (tempPath path), pending := w.pending ++ [path] } before after := by
  have paths : pathsOf (files ++ [⟨path, []⟩]) = pathsOf files ++ [path] := by simp [pathsOf]
  constructor
  · rw [paths]
    constructor
    · rw [← h.begun, List.append_assoc]
    · intro p hp
      rcases List.mem_append.mp hp with hp | hp
      · exact (h.temps p hp).agrees changed
      · rw [List.mem_singleton.mp hp]
        exact .of_file way empty
    · simp [h.unplaced]
    · simp [h.unplaced]
    · refine (h.rest.mono fun l hl => ⟨fun p hp => hl.1 p (List.mem_append_left _ hp), hl.2⟩).trans ?_
      exact changed.mono fun l hl => hl.1 path (List.mem_append_right _ (List.mem_singleton_self path))
  · exact h.unplaced
  · intro temp isOpen
    exact ⟨files, _, rfl, (Option.some.inj isOpen).symm⟩
  · rw [paths]
    intro distinct f hf
    have apart := List.pairwise_append.mp distinct
    rcases List.mem_append.mp hf with hf | hf
    · have other := apart.2.2 f.path (List.mem_map_of_mem hf) path (List.mem_singleton_self path)
      exact (changed.node _ other).trans (h.held apart.1 f hf)
    · rw [List.mem_singleton.mp hf]
      exact empty

theorem nextFile_runsTo (h : Writes files w before now) : (nextFile n task).RunsTo w now
    (fun _ w' => Writes (filesAfter n task files .nextFile) w' before)
      fun w' => Leaves (pathsOf files) w' before := by
  refine (flush_runsTo h).bind ?_
  rintro _ _ now ⟨rfl, h⟩
  refine Call.runsTo_get ?_
  have count : w.pending.length = files.length := by
    rw [show w.pending = _ from h.pending, pathsOf, List.length_map]
  simp only [count]
  refine Call.RunsTo.bind (Q := fun _ w' after => w' = { w with openPath := none } ∧
    AgreesOn (· ≠ Path.place (tempPath (n.path task files.length))) now after ∧
      after.LeadsTo (tempPath (n.path task files.length)) ∧
        after.node? (Path.place (tempPath (n.path task files.length))) = some (.file []))
    (runsTo_onDisk (fun _ ok => ?_) fun _ failed => ?_) ?_
  · rcases now.create_spec (tempPath (n.path task files.length)) with ⟨_, failed, -⟩ | ⟨-, made⟩
    · cases failed.symm.trans ok
    · exact ⟨rfl, made⟩
  · rcases now.create_spec (tempPath (n.path task files.length)) with ⟨_, -, same⟩ | ⟨ok, -⟩
    · exact h.leaves (same _)
    · cases ok.symm.trans failed
  · rintro _ _ after ⟨rfl, changed, way, empty⟩
    exact fun world same => same ▸ h.next changed way empty

theorem add_runsTo (data : Bytes) (h : Writes files w before now) : (add data).RunsTo w now
    (fun _ w' => Writes (filesAfter n task files (.add data)) w' before)
      fun w' => Leaves (pathsOf files) w' before := by
  refine Call.runsTo_get ?_
  cases handle : w.openPath with
  | none =>
    rintro world rfl
    exact h.toLeaves
  | some temp =>
    obtain ⟨front, f, rfl, rfl⟩ := h.handle temp handle
    refine (append_runsTo data h).mono ?_ fun _ _ left => left
    rintro _ w' now' ⟨rfl, writes⟩
    rw [filesAfter, List.modifyLast_concat]
    exact writes

/-- A call on the output makes the files what it says, or leaves what can be taken back. -/
theorem take_runsTo (step : FileStep) (h : Writes files w before now) :
    ((sink n task).take step).RunsTo w now
      (fun _ w' => Writes (filesAfter n task files step) w' before)
        fun w' => Leaves (pathsOf files) w' before := by
  cases step with
  | nextFile => exact nextFile_runsTo h
  | add data => exact add_runsTo data h
  | finish => exact (flush_runsTo h).mono (fun _ _ _ writes => writes.2) fun _ _ left => left

/-- A run of calls that fails has made the files of those before the one that failed. -/
theorem takeAll_runsTo (steps : List FileStep) (h : Writes files w before now) :
    ((sink n task).takeAll steps).RunsTo w now
      (fun _ w' => Writes (steps.foldl (filesAfter n task) files) w' before)
        fun w' now' => ∃ taken, taken <+: steps ∧
          Leaves (pathsOf (taken.foldl (filesAfter n task) files)) w' before now' := by
  -- every call begins with what the one before it has written; the first one that fails ends the run
  induction steps generalizing files w now with
  | nil => exact Call.runsTo_pure h
  | cons step rest ih =>
    refine ((take_runsTo step h).mono (fun _ _ _ writes => writes) fun _ _ left => ?_).bind ?_
    · exact ⟨[], List.nil_prefix, left⟩
    · intro _ w' now' writes
      refine (ih writes).mono (fun _ _ _ writes => writes) fun _ _ left => ?_
      obtain ⟨taken, early, left⟩ := left
      exact ⟨step :: taken, List.cons_prefix_cons.mpr ⟨rfl, early⟩, left⟩

end Writing

section Placing

/-- No path leads to where another one is written; this is only said of paths that lead to files. -/
def Uncrossed (paths : List String) : Prop := ∀ p ∈ paths, ∀ q ∈ paths,
  Path.endsAsDirectory q = false → Path.place (tempPath p) ≠ Path.place q

theorem Uncrossed.mono {others : List String} (h : Uncrossed paths) (fewer : others ⊆ paths) :
    Uncrossed others :=
  fun p hp q hq => h p (fewer hp) q (fewer hq)

/-- What was beside the paths has been moved to them. -/
structure Placed (paths : List String) (now after : Disk) : Prop where
  content : ∀ path ∈ paths, ∃ content, now.node? (Path.place (tempPath path)) = some (.file content) ∧
    after.fileAt? path = some content
  moved : ∀ path ∈ paths, after.node? (Path.place (tempPath path)) = none
  distinct : Distinct paths
  rest : AgreesOn (Elsewhere paths paths) now after

theorem Placed.nil (d : Disk) : Placed [] d d :=
  ⟨by simp, by simp, .nil, .refl _ d⟩

/-- A file that is moved before others is not touched by them: they are there to be moved, so they are not
written to where it was, and hence do not go to where it went. -/
theorem Placed.cons {path : String} {mid : Disk} (uncrossed : Uncrossed (path :: paths))
    (way : now.LeadsTo path) {content : Bytes}
    (source : now.node? (Path.place (tempPath path)) = some (.file content))
    (changed : AgreesOn (fun l => l ≠ Path.place (tempPath path) ∧ l ≠ Path.place path) now mid)
    (target : mid.node? (Path.place path) = some (.file content))
    (gone : mid.node? (Path.place (tempPath path)) = none)
    (h : Placed paths mid after) : Placed (path :: paths) now after := by
  have here : path ∈ path :: paths := List.mem_cons_self
  have there : ∀ {q}, q ∈ paths → q ∈ path :: paths := List.mem_cons_of_mem _
  have plain : ∀ q ∈ paths, Path.endsAsDirectory q = false := by
    intro q hq
    obtain ⟨_, -, held⟩ := h.content q hq
    exact (Disk.fileAt?_eq.mp held).1.2
  have apart : ∀ q ∈ paths, Path.place (tempPath path) ≠ Path.place (tempPath q) := by
    intro q hq same
    obtain ⟨_, held, -⟩ := h.content q hq
    cases gone.symm.trans ((congrArg mid.node? same).trans held)
  have final : Elsewhere paths paths (Path.place path) :=
    ⟨fun q hq => (uncrossed q (there hq) path here way.2).symm,
      fun q hq same => apart q hq (beside_same way.2 (plain q hq) same)⟩
  have temp : Elsewhere paths paths (Path.place (tempPath path)) :=
    ⟨apart, fun q hq => uncrossed path here q (there hq) (plain q hq)⟩
  constructor
  · intro q hq
    rcases List.mem_cons.mp hq with rfl | hq
    · refine ⟨content, source, ?_⟩
      rw [h.rest.fileAt? final]
      exact Disk.fileAt?_eq.mpr ⟨way.agrees changed, target⟩
    · obtain ⟨content, held, moved⟩ := h.content q hq
      have kept := changed.node (Path.place (tempPath q))
        ⟨(apart q hq).symm, uncrossed q (there hq) path here way.2⟩
      exact ⟨content, kept.symm.trans held, moved⟩
  · intro q hq
    rcases List.mem_cons.mp hq with rfl | hq
    · exact (h.rest.node _ temp).trans gone
    · exact h.moved q hq
  · exact .cons apart h.distinct
  · refine (changed.mono fun l hl => ⟨hl.1 path here, hl.2 path here⟩).trans ?_
    exact h.rest.mono fun l hl => ⟨fun q hq => hl.1 q (there hq), fun q hq => hl.2 q (there hq)⟩

/-- Some of the files are moved, the first ones first; all of them, if nothing fails. -/
theorem placeAll_runsTo (uncrossed : Uncrossed paths) (pending : w.pending = paths) :
    (placeAll paths).RunsTo w now
      (fun _ w' after => w' = { w with pending := [], placed := w.placed ++ paths } ∧
        Placed paths now after)
      fun w' after => ∃ done rest, paths = done ++ rest ∧
        w' = { w with pending := rest, placed := w.placed ++ done } ∧ Placed done now after := by
  induction paths generalizing w now with
  | nil =>
    refine Call.runsTo_pure ⟨?_, .nil now⟩
    rw [List.append_nil, ← pending]
  | cons path rest ih =>
    have fewer := uncrossed.mono (List.subset_cons_self path rest)
    -- what becomes of this file is only known once the others are moved, so its own move is kept as a step
    -- that goes in front of theirs
    refine Call.RunsTo.bind (Q := fun _ w' mid => w' = w ∧ ∀ {placed after},
      Uncrossed (path :: placed) → Placed placed mid after → Placed (path :: placed) now after)
      (runsTo_onDisk (fun _ ok => ⟨rfl, fun uncrossed h => ?_⟩) fun _ failed => ?_) ?_
    · rcases now.rename_spec (tempPath path) path with
        ⟨_, failed, -⟩ | ⟨-, way, changed, content, source, target, gone⟩
      · cases failed.symm.trans ok
      · exact .cons uncrossed way source changed target
          (gone (uncrossed path List.mem_cons_self path List.mem_cons_self way.2)) h
    · rcases now.rename_spec (tempPath path) path with ⟨_, -, same⟩ | ⟨ok, -⟩
      · refine ⟨[], path :: rest, rfl, ?_, by simp, by simp, .nil, same _⟩
        rw [List.append_nil, ← pending]
      · cases ok.symm.trans failed
    · rintro _ _ mid ⟨rfl, placed⟩
      refine Call.runsTo_modify ((ih fewer rfl).mono ?_ ?_)
      · rintro _ _ after ⟨rfl, h⟩
        exact ⟨by simp, placed uncrossed h⟩
      · rintro _ after ⟨done, left, rfl, rfl, h⟩
        have fewer := uncrossed.mono (List.cons_subset_cons path (List.subset_append_left done left))
        exact ⟨path :: done, left, rfl, by simp, placed fewer h⟩

/-- If only some of the files are moved, these and the others can be taken back. -/
theorem Writes.someMoved {done rest : List String} (h : Writes files w before now)
    (all : pathsOf files = done ++ rest) (moved : Placed done now after) :
    Leaves (pathsOf files) { w with pending := rest, placed := w.placed ++ done } before after := by
  have early : ∀ {path}, path ∈ done → path ∈ pathsOf files :=
    fun hp => all ▸ List.mem_append_left _ hp
  simp only [h.unplaced, List.nil_append]
  constructor
  · exact all.symm
  · exact fun path hp => (h.temps path hp).agrees moved.rest
  · intro path hp
    obtain ⟨_, -, held⟩ := moved.content path hp
    obtain ⟨way, file⟩ := Disk.fileAt?_eq.mp held
    exact .of_file way file
  · intro path hp content
    simp [moved.moved path hp]
  · have rest := h.rest
    rw [h.unplaced] at rest
    refine (rest.mono fun l hl => ⟨hl.1, by simp⟩).trans ?_
    exact moved.rest.mono fun l hl => ⟨fun path hp => hl.1 path (early hp), hl.2⟩

theorem Writes.allMoved (h : Writes files w before now) (moved : Placed (pathsOf files) now after) :
    Delivered files (Document.empty.set "files" (.arr ((pathsOf files).map .str))) before after where
  report := rfl
  content := by
    intro f hf
    obtain ⟨content, source, held⟩ := moved.content f.path (List.mem_map_of_mem hf)
    obtain rfl := DiskNode.file.inj (Option.some.inj (source.symm.trans (h.held moved.distinct f hf)))
    exact held
  moved := by
    intro f hf
    have path : f.path ∈ pathsOf files := List.mem_map_of_mem hf
    refine ((h.temps f.path path).agrees moved.rest).isGone fun content => ?_
    simp [moved.moved f.path path]
  rest := by
    have each : ∀ {l : Location}, (∀ f ∈ files, l ≠ Path.place (tempPath f.path) ∧ l ≠ Path.place f.path) →
        Elsewhere (pathsOf files) (pathsOf files) l := by
      intro l other
      refine ⟨fun path hp => ?_, fun path hp => ?_⟩
      all_goals obtain ⟨f, hf, rfl⟩ := List.mem_map.mp hp
      · exact (other f hf).1
      · exact (other f hf).2
    refine (h.rest.mono fun l other => ⟨(each other).1, ?_⟩).trans (moved.rest.mono fun l => each)
    simp [h.unplaced]

/-- A commit delivers all files, or fails with some moved and the others not. -/
theorem commit_runsTo (uncrossed : Uncrossed (pathsOf files)) (h : Writes files w before now) :
    commit.RunsTo w now (fun report _ => Delivered files report before)
      fun w' => Leaves (pathsOf files) w' before := by
  refine (flush_runsTo h).bind ?_
  rintro _ _ now ⟨rfl, h⟩
  refine Call.runsTo_get ?_
  have pending : w.pending = pathsOf files := h.pending
  have placed : w.placed = [] := h.unplaced
  simp only [pending]
  refine ((placeAll_runsTo uncrossed rfl).mono (fun _ _ _ ended => ended) ?_).bind ?_
  · rintro _ after ⟨done, rest, all, rfl, moved⟩
    exact h.someMoved all moved
  · rintro _ _ after ⟨rfl, moved⟩
    refine Call.runsTo_get (Call.runsTo_modify (Call.runsTo_pure ?_))
    simp only [placed, List.nil_append]
    exact h.allMoved moved

end Placing

section TakingBack

/-- Where some files are gone and nothing else has changed, no file has come. -/
theorem stays_vacant {l : Location} (gone : ∀ path ∈ paths, after.IsVacant (Path.place path))
    (rest : AgreesOn (fun l => ∀ path ∈ paths, l ≠ Path.place path) now after)
    (vacant : now.IsVacant l) : after.IsVacant l := by
  by_cases other : ∀ path ∈ paths, l ≠ Path.place path
  · exact rest.vacant other vacant
  · simp only [ne_eq, not_forall, not_not] at other
    obtain ⟨path, hp, rfl⟩ := other
    exact gone path hp

theorem removeAll_run {world : World} (ways : ∀ path ∈ paths, world.disk.LeadsTo path)
    (removes : ∀ time path, world.disk.refusal time (.remove path) = none) :
    (∀ path ∈ paths, ((removeAll paths).run world).2.disk.IsVacant (Path.place path)) ∧
      AgreesOn (fun l => ∀ path ∈ paths, l ≠ Path.place path) world.disk
        ((removeAll paths).run world).2.disk := by
  induction paths generalizing world with
  | nil => exact ⟨by simp, .refl _ _⟩
  | cons path rest ih =>
    obtain ⟨changed, -, gone⟩ := world.disk.remove_spec path
    obtain ⟨vacant, -⟩ := gone (fun time => removes time path) (ways path List.mem_cons_self)
    have runs : (removeAll (path :: rest)).run world =
        (removeAll rest).run { world with disk := (world.disk.remove path).2 } := rfl
    obtain ⟨others, agrees⟩ := @ih { world with disk := (world.disk.remove path).2 }
      (fun p hp => (ways p (List.mem_cons_of_mem _ hp)).agrees changed)
      fun time p => by rw [changed.refusal, removes]
    rw [runs]
    refine ⟨fun p hp => ?_, ?_⟩
    · rcases List.mem_cons.mp hp with rfl | hp
      · exact stays_vacant others agrees vacant
      · exact others p hp
    · refine (changed.mono fun l hl => hl path List.mem_cons_self).trans ?_
      exact agrees.mono fun l hl p hp => hl p (List.mem_cons_of_mem _ hp)

/-- An abort takes back whatever a task leaves. -/
theorem abort_run {world : World} (h : Leaves paths w before world.disk)
    (removes : ∀ time path, before.refusal time (.remove path) = none) :
    TakenBack paths w before ((abort w).run world).2.disk := by
  have runs : ((abort w).run world).2 =
      ((removeAll (w.pending.map tempPath ++ w.placed)).run world).2 := by
    change ((((removeAll (w.pending.map tempPath ++ w.placed)).andThen fun a => .done (a, w)).andThen
      fun _ => .done ((), Writing.blank)).run world).2 = _
    rw [Program.run_andThen, Program.run_andThen]
    rfl
  have ways : ∀ path ∈ w.pending.map tempPath ++ w.placed, world.disk.LeadsTo path := by
    intro path hp
    rcases List.mem_append.mp hp with hp | hp
    · obtain ⟨final, hf, rfl⟩ := List.mem_map.mp hp
      exact (h.temps final (h.begun ▸ List.mem_append_right _ hf)).1
    · exact (h.finals path hp).1
  obtain ⟨gone, agrees⟩ := removeAll_run ways fun time path => by rw [h.rest.refusal, removes]
  rw [runs]
  refine ⟨h.begun, fun path hp => ?_, ?_, ?_⟩
  · refine ((h.temps path hp).agrees agrees).isGone ?_
    rcases List.mem_append.mp (h.begun ▸ hp) with placed | pending
    · exact stays_vacant gone agrees (h.moved path placed)
    · exact gone _ (List.mem_append_left _ (List.mem_map_of_mem pending))
  · exact fun path hp =>
      ((h.finals path hp).agrees agrees).isGone (gone path (List.mem_append_right _ hp))
  · refine h.rest.trans (agrees.mono fun l hl path hp => ?_)
    rcases List.mem_append.mp hp with hp | hp
    · obtain ⟨final, hf, rfl⟩ := List.mem_map.mp hp
      exact hl.1 final (h.begun ▸ List.mem_append_right _ hf)
    · exact hl.2 path hp

end TakingBack

/-- The paths of a task do not cross, whatever their naming. -/
theorem uncrossed_filesOf (n : Naming) (task : Nat) (steps : List FileStep) :
    Uncrossed (pathsOf (filesOf n task steps)) := by
  intro p hp q hq plain
  rw [filesOf_paths] at hp hq
  obtain ⟨i, -, rfl⟩ := List.mem_map.mp hp
  obtain ⟨j, -, rfl⟩ := List.mem_map.mp hq
  exact Naming.beside_apart plain

theorem deliver_runsTo (n : Naming) (task : Nat) (steps : List FileStep) (d : Disk) :
    ((sink n task).deliver steps).RunsTo .blank d
      (fun report _ => Delivered (filesOf n task steps) report d)
      fun left after => ∃ taken, taken <+: steps ∧ Leaves (pathsOf (filesOf n task taken)) left d after := by
  refine (takeAll_runsTo steps (.begin d)).bind fun _ _ _ writes => ?_
  refine (commit_runsTo (uncrossed_filesOf n task steps) writes).mono (fun _ _ _ ended => ended) ?_
  exact fun _ _ left => ⟨steps, List.prefix_refl steps, left⟩

/-- The calls on the output of a task and the commit behind them, from when it was opened. -/
def writeAndCommit (n : Naming) (task : Nat) (steps : List FileStep) (w : World) :
    (Attempt Report × Writing) × World :=
  (((sink n task).deliver steps).attempt .blank).run w

/-- Where removals are not refused, either all files of a task are in place, or an abort leaves none. -/
theorem all_files_or_none (n : Naming) (task : Nat) (steps : List FileStep) (w : World)
    (removes : ∀ time path, w.disk.refusal time (.remove path) = none) :
    (∀ report, (writeAndCommit n task steps w).1.1 = .ok report →
      Delivered (filesOf n task steps) report w.disk (writeAndCommit n task steps w).2.disk) ∧
    ∀ e, (writeAndCommit n task steps w).1.1 = .error e → ∃ taken, taken <+: steps ∧
      TakenBack (pathsOf (filesOf n task taken)) (writeAndCommit n task steps w).1.2 w.disk
        (((sink n task).abort (writeAndCommit n task steps w).1.2).run
          (writeAndCommit n task steps w).2).2.disk := by
  have ended := deliver_runsTo n task steps w.disk w rfl
  rw [← writeAndCommit] at ended
  generalize writeAndCommit n task steps w = ran at ended
  obtain ⟨⟨result, left⟩, behind⟩ := ran
  cases result with
  | ok report =>
    refine ⟨fun _ same => ?_, by simp⟩
    cases same
    exact ended
  | error e =>
    refine ⟨by simp, fun _ _ => ?_⟩
    obtain ⟨taken, early, leaves⟩ := ended
    exact ⟨taken, early, abort_run leaves removes⟩

def twoFiles : List FileStep :=
  [.nextFile, .add (Utf8.encode "a"), .nextFile, .add (Utf8.encode "b"), .finish]

/-- An empty disk on which the second of two files cannot be moved. -/
def stubbornDisk : Disk :=
  ⟨[], 0, fun _ access =>
    if access = .rename "o000.01.csv.tmp" "o000.01.csv" then some .permissionDenied else none⟩

def onStubbornDisk (steps : List FileStep) : (Attempt Report × Writing) × World :=
  writeAndCommit ⟨"o", "csv"⟩ 0 steps (.ofDisk stubbornDisk)

/-- One file alone is delivered there; of two files the first one is taken back. -/
theorem stuck_file_takes_all_back :
    (∀ time path, stubbornDisk.refusal time (.remove path) = none) ∧
      (∃ report, (onStubbornDisk (twoFiles.take 2)).1.1 = .ok report ∧
        Delivered (filesOf ⟨"o", "csv"⟩ 0 (twoFiles.take 2)) report stubbornDisk
          (onStubbornDisk (twoFiles.take 2)).2.disk) ∧
      (onStubbornDisk twoFiles).1.2.placed = ["o000.00.csv"] ∧
      ∃ taken, taken <+: twoFiles ∧ TakenBack (pathsOf (filesOf ⟨"o", "csv"⟩ 0 taken))
        (onStubbornDisk twoFiles).1.2 stubbornDisk
          (((sink ⟨"o", "csv"⟩ 0).abort (onStubbornDisk twoFiles).1.2).run
            (onStubbornDisk twoFiles).2).2.disk := by
  have removes : ∀ time path, stubbornDisk.refusal time (.remove path) = none := fun _ _ => rfl
  have failed : (onStubbornDisk twoFiles).1.1 = .error (.file "o000.01.csv" .permissionDenied) := rfl
  have delivered : (onStubbornDisk (twoFiles.take 2)).1.1 =
      .ok (Document.empty.set "files" (.arr [.str "o000.00.csv"])) := rfl
  refine ⟨removes, ⟨_, delivered, ?_⟩, rfl, ?_⟩
  · exact (all_files_or_none _ _ _ _ removes).1 _ delivered
  · exact (all_files_or_none _ _ _ _ removes).2 _ failed

end LocalOutput

end BulkTransfer
