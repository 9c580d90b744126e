import BulkTransfer.Proofs.Local.Naming
import BulkTransfer.Proofs.Transfer.Freezing
/-!
# The state file as a cell

Whatever fails and wherever a crash cuts a call short, the file of a store holds what the last save or
removal that was done has left. A save only writes beside the file until it moves the new text over it, and
what is beside the file is emptied before anything is written there. So two disks that differ in nothing
but the file beside are twins for the store: every call answers alike on both, and leaves twins.
-/
namespace BulkTransfer

/-- What an action gives within so many steps, if it is done by then. -/
def Program.within {α : Type} : Nat → Action α → World → Option α × World
  | _, .done a, w => (some a, w)
  | 0, _, w => (none, w)
  | steps + 1, p, w =>
    let (rest, w) := p.advance w
    rest.within steps w

/-- The disk when this is refused, whatever the time. -/
def Disk.under (d : Disk) (fate : Access → Option IoError) : Disk := { d with refusal := fun _ => fate }

namespace Disk

variable {d : Disk} {path : String}

/-- Whether a file can be written at a path, and where, depends on directories alone. -/
theorem writable_place (plain : Path.endsAsDirectory path = false) : (d.writable path).map Prod.fst =
    match d.resolve path with
    | .error fault => .error fault
    | .ok l => if d.node? l = some .directory then .error .isADirectory else .ok l := by
  unfold Disk.writable Disk.nodeAt
  cases d.resolve path with
  | error fault => rfl
  | ok l =>
    simp only [bind, Except.bind, plain]
    cases d.node? l with
    | none => rfl
    | some node => cases node <;> rfl

theorem write_agrees (d : Disk) (path : String) (data : Bytes) :
    AgreesOn (· ≠ Path.place path) d (d.write path data).2 := by
  unfold write
  rcases d.create_spec path with ⟨fault, refused, same⟩ | ⟨made, other, -⟩
  · have created : d.create path = (.error fault, (d.create path).2) := Prod.ext refused rfl
    rw [created]
    exact same _
  · have created : d.create path = (.ok (), (d.create path).2) := Prod.ext made rfl
    rw [created]
    exact other.trans ((d.create path).2.append_spec path data).1

/-- A removal that fails leaves everything as it is. -/
theorem remove_failed {fault : IoError} (failed : (d.remove path).1 = .error fault) :
    (d.remove path).2 = d.counted := by
  unfold remove at failed ⊢
  rcases attempt_cases d (.remove path) _ with ⟨fault, h⟩ | ⟨result, d', -, h⟩
  · rw [h]
  · rw [h] at failed
    cases failed

/-- What a removal that is let through says. -/
theorem remove_allowed (allowed : d.refusal d.clock (.remove path) = none) : (d.remove path).1 =
    match d.nodeAt path with
    | .error cause => .error cause
    | .ok (_, none) => .error .notFound
    | .ok (_, some .directory) => .error .isADirectory
    | .ok (_, some (.file _)) => .ok () := by
  have found : Disk.nodeAt { d with clock := d.clock + 1 } path = d.nodeAt path := nodeAt_congr rfl
  unfold remove attempt
  rw [allowed]
  dsimp only
  rw [found]
  cases d.nodeAt path with
  | error cause => rfl
  | ok pair =>
    obtain ⟨l, node⟩ := pair
    cases node with
    | none => rfl
    | some node => cases node <;> rfl

theorem readText_of_read (d : Disk) (path : String) : (d.readText path).1 =
    (d.read path).1.bind fun bytes => (Utf8.decode bytes).mapError fun _ => .notUtf8 := by
  unfold readText
  cases d.read path with
  | mk result after =>
    cases result with
    | error fault => rfl
    | ok bytes =>
      dsimp only [Except.bind]
      cases Utf8.decode bytes <;> rfl

end Disk

def World.under (w : World) (fate : Access → Option IoError) : World := { w with disk := w.disk.under fate }

namespace StateStore

abbrev Answer := Except StateStoreError (Option ResumeState)

inductive Call where
  | save (state : ResumeState)
  | load
  | delete
  /-- A save that fails or is cut while it writes, and leaves any bytes beside the file. -/
  | tear (part : Bytes)

/-- A call, the steps that it comes to before a crash, and what the system refuses in it. -/
structure Turn where
  call : Call
  steps : Nat
  fate : Access → Option IoError

namespace Turn

/-- A call is answered if it is done before the crash. -/
def take (s : StateStore) (t : Turn) (w : World) : Option Answer × World :=
  let w := w.under t.fate
  match t.call with
  | .save state => ((s.save state).andThen fun r => .done (r.map fun _ => none)).within t.steps w
  | .load => s.load.within t.steps w
  | .delete => (s.delete.andThen fun r => .done (r.map fun _ => none)).within t.steps w
  | .tear part => (none, { w with disk := (w.disk.write s.besidePath part).2 })

/-- What a call has left in the file: a save that was done its state, a removal nothing. -/
def left (t : Turn) (answer : Option Answer) : Option (Option ResumeState) :=
  match t.call, answer with
  | .save state, some (.ok _) => some (some state)
  | .delete, some (.ok _) => some none
  | _, _ => none

end Turn

/-- The world after the calls were made one after the other. -/
def after (s : StateStore) (turns : List Turn) (w : World) : World :=
  turns.foldl (fun w t => (t.take s w).2) w

def answers (s : StateStore) : List Turn → World → List (Option Answer)
  | [], _ => []
  | t :: turns, w => (t.take s w).1 :: s.answers turns (t.take s w).2

/-- What the calls have left in the file, one after the other. -/
def lefts (s : StateStore) : List Turn → World → List (Option ResumeState)
  | [], _ => []
  | t :: turns, w => (t.left (t.take s w).1).toList ++ s.lefts turns (t.take s w).2

variable {s : StateStore} {d d' d'' c c' : Disk} {w w' : World} {t : Turn} {path : String} {data : Bytes}
  {state : ResumeState}

section Twins

open Disk

/-- Two disks that differ at most in the file beside, and have the directories for one if they do. -/
structure Twins (s : StateStore) (d d' : Disk) : Prop where
  directory : ∀ l, d'.node? l = some .directory ↔ d.node? l = some .directory
  node : ∀ l, l ≠ Path.place s.besidePath → d'.node? l = d.node? l
  way : d'.node? (Path.place s.besidePath) = d.node? (Path.place s.besidePath) ∨
    ∀ m ∈ gates s.besidePath, d.node? m = some .directory

namespace Twins

theorem of_nodes (same : ∀ l, d'.node? l = d.node? l) : s.Twins d d' :=
  ⟨fun l => by rw [same], fun l _ => same l, .inl (same _)⟩

theorem symm (h : s.Twins d d') : s.Twins d' d :=
  ⟨fun l => (h.directory l).symm, fun l hl => (h.node l hl).symm,
    h.way.imp Eq.symm fun gates m hm => (h.directory m).mpr (gates m hm)⟩

theorem trans (h : s.Twins d d') (h' : s.Twins d' d'') : s.Twins d d'' where
  directory := fun l => (h'.directory l).trans (h.directory l)
  node := fun l hl => (h'.node l hl).trans (h.node l hl)
  way := by
    rcases h.way with same | gates
    · exact h'.way.imp (fun later => later.trans same) fun gates m hm => (h.directory m).mp (gates m hm)
    · exact .inr gates

theorem agrees (h : s.Twins d d') (same : d'.refusal = d.refusal) :
    AgreesOn (· ≠ Path.place s.besidePath) d d' := ⟨h.directory, h.node, same⟩

theorem under (h : s.Twins d d') (fate : Access → Option IoError) : s.Twins (d.under fate) (d'.under fate) :=
  ⟨h.directory, h.node, h.way⟩

theorem counted (h : s.Twins d d') : s.Twins d.counted d'.counted := ⟨h.directory, h.node, h.way⟩

/-- What is on the way to the file beside leads alike on twins. -/
theorem resolve (h : s.Twins d d') (same : d'.refusal = d.refusal)
    (inside : ∀ m ∈ gates path, m ∈ gates s.besidePath) : d'.resolve path = d.resolve path := by
  have walked : d'.walk (root path) (Path.names path) = d.walk (root path) (Path.names path) := by
    rcases h.way with beside | directories
    · have all : AgreesOn (fun _ => True) d d' := by
        refine ⟨h.directory, fun l _ => ?_, same⟩
        by_cases here : l = Path.place s.besidePath
        · rw [here, beside]
        · exact h.node l here
      exact all.walk fun _ _ _ => trivial
    · exact (h.agrees same).walk fun m hm other => absurd (directories m (inside m hm)) other
  rw [root] at walked
  rw [Disk.resolve, Disk.resolve, walked]

theorem sameWay (h : s.Twins d d') (same : d'.refusal = d.refusal) :
    SameWay (· ≠ Path.place s.besidePath) d d' s.path where
  way := h.resolve same (LocalOutput.gates_beside s.path)
  known := by
    intro l way
    rw [resolve_place way]
    exact (LocalOutput.place_beside_ne s.path).symm

/-- Twins hold the same text. -/
theorem textOn (h : s.Twins d d') : s.textOn d' = s.textOn d := by
  have calm := h.under fun _ => none
  calc s.textOn d'
    _ = s.textOn (d'.under fun _ => none) := textOn_congr rfl
    _ = s.textOn (d.under fun _ => none) := by
      rw [StateStore.textOn, StateStore.textOn, (calm.agrees rfl).nodeAt (calm.sameWay rfl)]
    _ = s.textOn d := textOn_congr rfl

end Twins

/-- A write beside the file leaves a twin. -/
theorem twins_write (d : Disk) (data : Bytes) : s.Twins d (d.write s.besidePath data).2 := by
  have written := d.write_agrees s.besidePath data
  refine ⟨written.directory, written.node, ?_⟩
  unfold write
  rcases d.create_spec s.besidePath with ⟨fault, refused, same⟩ | ⟨-, other, way, -⟩
  · have created : d.create s.besidePath = (.error fault, (d.create s.besidePath).2) := Prod.ext refused rfl
    rw [created]
    exact .inl ((same fun _ => True).node _ trivial)
  · exact .inr fun m hm => (other.directory m).mp (resolve_gates way.1 m hm)

theorem Twins.writable (h : s.Twins d d') (same : d'.refusal = d.refusal) :
    (d'.writable s.besidePath).map Prod.fst = (d.writable s.besidePath).map Prod.fst := by
  have plain : Path.endsAsDirectory s.besidePath = false := LocalOutput.endsAsDirectory_beside s.path
  rw [writable_place plain, writable_place plain, h.resolve same fun m hm => hm]
  simp only [h.directory]

/-- What is beside the file is emptied before anything is written there, so writing ends alike on twins,
and if it succeeds they are the same. -/
theorem Twins.create (h : s.Twins d d') (same : d'.refusal = d.refusal) (steady : d.IsSteady) :
    (d.create s.besidePath).1 = (d'.create s.besidePath).1 ∧
      ((d.create s.besidePath).1 = .ok () →
        AgreesOn (fun _ => True) (d.create s.besidePath).2 (d'.create s.besidePath).2) := by
  have writable := (h.counted).writable (same : d'.counted.refusal = d.counted.refusal)
  have made : Same (· ≠ Path.place s.besidePath) (d.create s.besidePath) (d'.create s.besidePath) := by
    refine (h.agrees same).attempt steady ?_
    cases found : d.counted.writable s.besidePath with
    | error fault =>
      cases found' : d'.counted.writable s.besidePath with
      | error fault' =>
        rw [found, found'] at writable
        exact (Except.error.inj writable).symm
      | ok pair =>
        rw [found, found'] at writable
        cases writable
    | ok pair =>
      cases found' : d'.counted.writable s.besidePath with
      | error fault =>
        rw [found, found'] at writable
        cases writable
      | ok pair' =>
        rw [found, found'] at writable
        obtain ⟨-, -, plain, -⟩ := writable_ok found
        have place : pair'.1 = pair.1 := Except.ok.inj writable
        refine ⟨rfl, ?_⟩
        change AgreesOn _ (d.counted.putNode pair.1 _) (d'.counted.putNode pair'.1 _)
        rw [place]
        exact (h.counted.agrees same).putNode plain _
  refine ⟨made.1, fun done => ⟨made.2.directory, fun l _ => ?_, made.2.refusal⟩⟩
  by_cases here : l = Path.place s.besidePath
  · have empty : ∀ d : Disk, (d.create s.besidePath).1 = .ok () →
        (d.create s.besidePath).2.node? (Path.place s.besidePath) = some (.file []) := by
      intro d done
      rcases d.create_spec s.besidePath with ⟨fault, refused, -⟩ | ⟨-, -, -, empty⟩
      · rw [refused] at done
        cases done
      · exact empty
    rw [here, empty d done, empty d' (made.1 ▸ done)]
  · exact made.2.node l here

theorem Twins.write (h : s.Twins d d') (same : d'.refusal = d.refusal) (steady : d.IsSteady) (data : Bytes) :
    (d.write s.besidePath data).1 = (d'.write s.besidePath data).1 ∧
      ((d.write s.besidePath data).1 = .ok () →
        AgreesOn (fun _ => True) (d.write s.besidePath data).2 (d'.write s.besidePath data).2) := by
  obtain ⟨made, all⟩ := h.create same steady
  have stays : (d.create s.besidePath).2.IsSteady := by
    rcases d.create_spec s.besidePath with ⟨-, -, agrees⟩ | ⟨-, agrees, -⟩
    · exact steady.agrees (agrees fun _ => True)
    · exact steady.agrees agrees
  unfold Disk.write
  cases created : d.create s.besidePath with
  | mk result c =>
    cases created' : d'.create s.besidePath with
    | mk result' c' =>
      rw [created, created'] at made all
      rw [created] at stays
      obtain rfl : result = result' := made
      cases result with
      | error fault => exact ⟨rfl, nofun⟩
      | ok _ =>
        have way : SameWay (fun _ => True) c c' s.besidePath :=
          (all rfl).sameWay (fun _ _ _ => trivial) trivial
        have appended := (all rfl).append stays way data
        exact ⟨appended.1, fun _ => appended.2⟩

/-- Files in other places, changed alike, leave twins. -/
theorem Twins.changed (h : s.Twins d d') (apart : Path.place path ≠ Path.place s.besidePath)
    (one : AgreesOn (· ≠ Path.place path) d c) (other : AgreesOn (· ≠ Path.place path) d' c')
    (alike : AgreesOn (· ≠ Path.place s.besidePath) c c') : s.Twins c c' where
  directory := alike.directory
  node := alike.node
  way := by
    rcases h.way with same | gates
    · left
      rw [other.node _ apart.symm, one.node _ apart.symm, same]
    · exact .inr fun m hm => (one.directory m).mpr (gates m hm)

end Twins

section Turns

open Disk

theorem within_done {α : Type} (steps : Nat) (a : α) (w : World) :
    Program.within steps (.done a) w = (some a, w) := by
  cases steps <;> rfl

/-- A save writes beside the file and then moves what it has written over it. -/
theorem save_steps (s : StateStore) (state : ResumeState) (f : Except StateStoreError Unit → Action Answer) :
    (s.save state).andThen f =
      .step (fun w => { w with disk := (w.disk.write s.besidePath (Utf8.encode state.yaml)).2 }) fun w =>
        match (w.disk.write s.besidePath (Utf8.encode state.yaml)).1 with
        | .error cause => f (.error (.io s.path cause))
        | .ok () =>
          .step (fun w => { w with disk := (w.disk.rename s.besidePath s.path).2 }) fun w =>
            f ((w.disk.rename s.besidePath s.path).1.mapError (.io s.path)) := by
  refine congrArg (Program.step _) (funext fun w => ?_)
  dsimp only
  cases (w.disk.write s.besidePath (Utf8.encode state.yaml)).1 <;> rfl

variable {fate : Access → Option IoError} {steps : Nat} {cause : IoError}

/-- The write of a save. -/
def writing (s : StateStore) (state : ResumeState) (d : Disk) : Except IoError Unit × Disk :=
  d.write s.besidePath (Utf8.encode state.yaml)

/-- The move of a save. -/
def moving (s : StateStore) (d : Disk) : Except IoError Unit × Disk := d.rename s.besidePath s.path

theorem take_save_failed (failed : (s.writing state (w.under fate).disk).1 = .error cause) :
    Turn.take s ⟨.save state, steps + 1, fate⟩ w =
      (some (.error (.io s.path cause)), { w with disk := (s.writing state (w.under fate).disk).2 }) := by
  unfold writing at *
  simp only [Turn.take, save_steps, Program.within, Program.advance, failed, within_done]
  rfl

/-- A save that is cut has written beside the file. -/
theorem take_save_cut (wrote : (s.writing state (w.under fate).disk).1 = .ok ()) :
    Turn.take s ⟨.save state, 1, fate⟩ w =
      (none, { w with disk := (s.writing state (w.under fate).disk).2 }) := by
  unfold writing at *
  simp only [Turn.take, save_steps, Program.within, Program.advance, wrote]
  rfl

theorem take_save_done (wrote : (s.writing state (w.under fate).disk).1 = .ok ()) :
    Turn.take s ⟨.save state, steps + 2, fate⟩ w =
      (some (((s.moving (s.writing state (w.under fate).disk).2).1.mapError (.io s.path)).map fun _ => none),
        { w with disk := (s.moving (s.writing state (w.under fate).disk).2).2 }) := by
  unfold writing at *
  simp only [Turn.take, save_steps, Program.within, Program.advance, wrote, within_done]
  rfl

theorem take_load (s : StateStore) (steps : Nat) (fate : Access → Option IoError) (w : World) :
    Turn.take s ⟨.load, steps + 1, fate⟩ w =
      (some (s.reading ((w.under fate).disk.readText s.path).1), { w with disk := (w.under fate).disk.counted }) := by
  simp only [Turn.take, load_eq, Program.onDisk, Program.andThen, Program.within, Program.advance, within_done,
    Disk.readText_counted]
  rfl

theorem take_delete (s : StateStore) (steps : Nat) (fate : Access → Option IoError) (w : World) :
    Turn.take s ⟨.delete, steps + 1, fate⟩ w =
      (some ((s.emptying ((w.under fate).disk.remove s.path).1).map fun _ => none),
        { w with disk := ((w.under fate).disk.remove s.path).2 }) := by
  simp only [Turn.take, delete_eq, Program.onDisk, Program.andThen, Program.within, Program.advance, within_done]
  rfl

/-- A save on twins ends alike, and writes the same over the file if it comes to that. -/
theorem Twins.save (h : s.Twins (w.under fate).disk (w'.under fate).disk) (state : ResumeState) (steps : Nat) :
    (Turn.take s ⟨.save state, steps + 1, fate⟩ w').1 = (Turn.take s ⟨.save state, steps + 1, fate⟩ w).1 ∧
      s.Twins (Turn.take s ⟨.save state, steps + 1, fate⟩ w).2.disk
        (Turn.take s ⟨.save state, steps + 1, fate⟩ w').2.disk := by
  have steady : (w.under fate).disk.IsSteady := fun _ _ _ => rfl
  obtain ⟨ended, all⟩ := h.write rfl steady (Utf8.encode state.yaml)
  cases wrote : (s.writing state (w.under fate).disk).1 with
  | error cause =>
    rw [take_save_failed wrote, take_save_failed (ended.symm.trans wrote)]
    exact ⟨rfl, (twins_write _ _).symm.trans (h.trans (twins_write _ _))⟩
  | ok _ =>
    have agrees := all wrote
    cases steps with
    | zero =>
      rw [take_save_cut wrote, take_save_cut (ended.symm.trans wrote)]
      exact ⟨rfl, .of_nodes fun l => agrees.node l trivial⟩
    | succ steps =>
      have ways : ∀ path, SameWay (fun _ => True) _ _ path := fun path =>
        agrees.sameWay (fun _ _ _ => trivial) trivial
      have moved := agrees.rename (steady.agrees (write_agrees _ _ _)) (ways s.besidePath) (ways s.path)
      rw [take_save_done wrote, take_save_done (ended.symm.trans wrote)]
      refine ⟨?_, .of_nodes fun l => moved.2.node l trivial⟩
      exact congrArg (fun r => some ((Except.mapError (StateStoreError.io s.path) r).map fun _ => none)) moved.1.symm

/-- Twins stay twins, and what is told is the same. -/
theorem Twins.take (h : s.Twins w.disk w'.disk) (t : Turn) :
    (t.take s w').1 = (t.take s w).1 ∧ s.Twins (t.take s w).2.disk (t.take s w').2.disk := by
  have steady : (w.under t.fate).disk.IsSteady := fun _ _ _ => rfl
  have under : s.Twins (w.under t.fate).disk (w'.under t.fate).disk := h.under t.fate
  have agrees := under.agrees rfl
  have way := under.sameWay rfl
  obtain ⟨call, steps, fate⟩ := t
  cases call with
  | tear part => exact ⟨rfl, (twins_write _ _).symm.trans (under.trans (twins_write _ _))⟩
  | load =>
    cases steps with
    | zero => exact ⟨rfl, under⟩
    | succ steps =>
      have read := (agrees.read steady way).1
      rw [take_load, take_load, readText_of_read, readText_of_read, read]
      exact ⟨rfl, under.counted⟩
  | delete =>
    cases steps with
    | zero => exact ⟨rfl, under⟩
    | succ steps =>
      have removed := agrees.remove steady way
      rw [take_delete, take_delete, removed.1]
      exact ⟨rfl, under.changed (LocalOutput.place_beside_ne s.path).symm (remove_spec _ _).1
        (remove_spec _ _).1 removed.2⟩
  | save state =>
    cases steps with
    | zero => exact ⟨rfl, under⟩
    | succ steps => exact under.save state steps

/-- What a call comes to: it leaves nothing in the file and a twin of the disk, or it is a save that has moved
its text over the file, or a removal that has succeeded. -/
theorem take_cases (s : StateStore) (t : Turn) (w : World) :
    let disk := (w.under t.fate).disk
    (t.left (t.take s w).1 = none ∧ s.Twins w.disk (t.take s w).2.disk) ∨
    (∃ state, t.call = .save state ∧ t.left (t.take s w).1 = some (some state) ∧
      (s.writing state disk).1 = .ok () ∧ (s.moving (s.writing state disk).2).1 = .ok () ∧
        (t.take s w).2.disk = (s.moving (s.writing state disk).2).2) ∨
    (t.call = .delete ∧ t.left (t.take s w).1 = some none ∧ s.emptying (disk.remove s.path).1 = .ok () ∧
      (t.take s w).2.disk = (disk.remove s.path).2) := by
  obtain ⟨call, steps, fate⟩ := t
  have under : s.Twins w.disk (w.under fate).disk := .of_nodes fun _ => rfl
  cases call with
  | tear part => exact .inl ⟨rfl, under.trans (twins_write _ _)⟩
  | load =>
    cases steps with
    | zero => exact .inl ⟨rfl, under⟩
    | succ steps =>
      rw [take_load]
      exact .inl ⟨rfl, .of_nodes fun _ => rfl⟩
  | delete =>
    cases steps with
    | zero => exact .inl ⟨rfl, under⟩
    | succ steps =>
      rw [take_delete]
      cases told : s.emptying ((w.under fate).disk.remove s.path).1 with
      | ok _ => exact .inr (.inr ⟨rfl, rfl, told, rfl⟩)
      | error e =>
        refine .inl ⟨rfl, ?_⟩
        cases removed : ((w.under fate).disk.remove s.path).1 with
        | ok _ =>
          rw [removed] at told
          cases told
        | error fault =>
          rw [remove_failed removed]
          exact .of_nodes fun _ => rfl
  | save state =>
    have written : s.Twins w.disk (s.writing state (w.under fate).disk).2 := under.trans (twins_write _ _)
    cases steps with
    | zero => exact .inl ⟨rfl, under⟩
    | succ steps =>
      cases wrote : (s.writing state (w.under fate).disk).1 with
      | error cause =>
        rw [take_save_failed wrote]
        exact .inl ⟨rfl, written⟩
      | ok _ =>
        cases steps with
        | zero =>
          rw [take_save_cut wrote]
          exact .inl ⟨rfl, written⟩
        | succ steps =>
          rw [take_save_done wrote]
          rcases rename_spec (s.writing state (w.under fate).disk).2 s.besidePath s.path with
            ⟨fault, refused, same⟩ | ⟨moved, -⟩
          · have refused : (s.moving (s.writing state (w.under fate).disk).2).1 = .error fault := refused
            refine .inl ⟨by rw [refused]; rfl, ?_⟩
            exact written.trans (.of_nodes fun l => (same fun _ => True).node l trivial)
          · have moved : (s.moving (s.writing state (w.under fate).disk).2).1 = .ok () := moved
            exact .inr (.inl ⟨state, rfl, by rw [moved]; rfl, wrote, moved, rfl⟩)

/-- A call that leaves nothing in the file leaves a twin. -/
theorem twins_take (nothing : t.left (t.take s w).1 = none) : s.Twins w.disk (t.take s w).2.disk := by
  rcases take_cases s t w with ⟨-, twins⟩ | ⟨state, -, left, -⟩ | ⟨-, left, -⟩
  · exact twins
  · rw [nothing] at left
    cases left
  · rw [nothing] at left
    cases left

/-- A save that has moved its text over the file has left its state there. -/
theorem heldOn_moving (readsBack : s.reading (.ok state.yaml) = .ok (some state))
    (wrote : (s.writing state w.disk).1 = .ok ()) (moved : (s.moving (s.writing state w.disk).2).1 = .ok ()) :
    s.heldOn (s.moving (s.writing state w.disk).2).2 = .ok (some state) := by
  have run : (s.save state).run w = (.ok (), { w with disk := (s.moving (s.writing state w.disk).2).2 }) := by
    unfold writing moving at *
    simp only [save_run, wrote, moved]
    rfl
  have saves : s.Saves state w := ⟨by rw [run], readsBack⟩
  have kept := saves.kept
  rwa [run] at kept

/-- A removal that succeeds has left nothing in the file. -/
theorem heldOn_removed (told : s.emptying (w.disk.remove s.path).1 = .ok ())
    (truly : w.disk.refusal w.disk.clock (.remove s.path) ≠ some .notFound) :
    s.heldOn (w.disk.remove s.path).2 = .ok none := by
  have deletes : s.Deletes w := ⟨by rw [delete_run]; exact told, truly⟩
  have emptied := deletes.emptied
  rwa [delete_run] at emptied

/-- What is in the file is what the call has left there, if it has left anything. -/
theorem heldOn_take (truly : t.fate (.remove s.path) ≠ some .notFound)
    (readsBack : ∀ state, t.call = .save state → s.reading (.ok state.yaml) = .ok (some state)) :
    s.heldOn (t.take s w).2.disk = ((t.left (t.take s w).1).map .ok).getD (s.heldOn w.disk) := by
  rcases take_cases s t w with ⟨left, twins⟩ | ⟨state, called, left, wrote, moved, disk⟩ | ⟨-, left, told, disk⟩
  · rw [left, heldOn, twins.textOn]
    rfl
  · rw [left, disk, heldOn_moving (readsBack state called) wrote moved]
    rfl
  · rw [left, disk, heldOn_removed told truly]
    rfl

/-- After any calls the file holds what the last one that has left anything there has left. -/
theorem heldOn_after {turns : List Turn} (truly : ∀ t ∈ turns, t.fate (.remove s.path) ≠ some .notFound)
    (readsBack : ∀ t ∈ turns, ∀ state, t.call = .save state → s.reading (.ok state.yaml) = .ok (some state)) :
    s.heldOn (s.after turns w).disk = ((s.lefts turns w).getLast?.map .ok).getD (s.heldOn w.disk) := by
  induction turns generalizing w with
  | nil => rfl
  | cons t turns ih =>
    rw [List.forall_mem_cons] at truly readsBack
    have step := heldOn_take (w := w) truly.1 readsBack.1
    rw [after, List.foldl_cons, ← after, ih truly.2 readsBack.2, lefts, List.getLast?_append, step]
    cases (s.lefts turns (t.take s w).2).getLast? with
    | some content => rfl
    | none => cases t.left (t.take s w).1 <;> rfl

/-- Calls on twins are answered alike. -/
theorem Twins.answers (h : s.Twins w.disk w'.disk) (turns : List Turn) :
    s.answers turns w' = s.answers turns w := by
  induction turns generalizing w w' with
  | nil => rfl
  | cons t turns ih =>
    obtain ⟨answer, rest⟩ := h.take t
    rw [StateStore.answers, StateStore.answers, answer, ih rest]

/-- A load that is let through gives what the file holds. -/
theorem take_load_allowed (steps : Nat) (allowed : fate (.read s.path) = none) :
    (Turn.take s ⟨.load, steps + 1, fate⟩ w).1 = some (s.heldOn w.disk) := by
  have same : s.textOn (w.under fate).disk = s.textOn w.disk := textOn_congr rfl
  rw [take_load, readText_textOn (show (w.under fate).disk.refusal _ _ = none from allowed), same]
  rfl

/-- A removal that is let through succeeds on a text, and where there is none. -/
theorem take_delete_allowed (steps : Nat) (allowed : fate (.remove s.path) = none)
    (fine : s.textOn w.disk = .error .notFound ∨ ∃ text, s.textOn w.disk = .ok text) :
    (Turn.take s ⟨.delete, steps + 1, fate⟩ w).1 = some (.ok none) := by
  have open_ : (w.under fate).disk.refusal (w.under fate).disk.clock (.remove s.path) = none := allowed
  have found : (w.under fate).disk.nodeAt s.path = w.disk.nodeAt s.path := nodeAt_congr rfl
  rw [take_delete, remove_allowed open_, found]
  unfold textOn at fine
  cases node : w.disk.nodeAt s.path with
  | error cause =>
    rw [node] at fine
    rcases fine with missing | ⟨text, held⟩
    · cases missing
      rfl
    · cases held
  | ok pair =>
    obtain ⟨l, node'⟩ := pair
    rw [node] at fine
    match node' with
    | none => rfl
    | some (.file content) => rfl
    | some .directory =>
      rcases fine with missing | ⟨text, held⟩
      · cases missing
      · cases held

/-- The file of a store is an atomic cell, whatever fails and whatever is cut short by a crash. A load gives
what the last save or removal that was done has left, and what was there at first if there is none. A call
that leaves nothing, such as a save that fails or is cut or torn, changes no answer of any later calls,
whatever it has written beside the file. Where the file is missing or blank, a load gives no state and a
removal succeeds. That a missing file is told of where there is one is left out, and that texts in YAML
read back as the trees they were written from is relied on. -/
theorem state_file_is_an_atomic_cell (s : StateStore) (w : World) (turns : List Turn)
    (truly : ∀ t ∈ turns, t.fate (.remove s.path) ≠ some .notFound)
    (counts : ∀ t ∈ turns, ∀ state, t.call = .save state → state.IsCountable)
    (readsBack : ∀ t ∈ turns, ∀ state, t.call = .save state →
      Tree.ofYaml ResumeState.form state.yaml = .ok state.toTree) :
    (∀ steps fate, fate (.read s.path) = none →
      (Turn.take s ⟨.load, steps + 1, fate⟩ (s.after turns w)).1 =
        some (((s.lefts turns w).getLast?.map .ok).getD (s.heldOn w.disk))) ∧
    (∀ t : Turn, t.left (t.take s (s.after turns w)).1 = none → ∀ later,
      s.answers later (t.take s (s.after turns w)).2 = s.answers later (s.after turns w)) ∧
    (s.textOn (s.after turns w).disk = .error .notFound ∨
        (∃ text, s.textOn (s.after turns w).disk = .ok text ∧ text.toList.all isBlank = true) →
      ∀ steps fate,
        (fate (.read s.path) = none →
          (Turn.take s ⟨.load, steps + 1, fate⟩ (s.after turns w)).1 = some (.ok none)) ∧
        (fate (.remove s.path) = none →
          (Turn.take s ⟨.delete, steps + 1, fate⟩ (s.after turns w)).1 = some (.ok none))) := by
  have reads : ∀ t ∈ turns, ∀ state, t.call = .save state → s.reading (.ok state.yaml) = .ok (some state) :=
    fun t ht state called => ResumeState.reading_yaml s (counts t ht state called) (readsBack t ht state called)
  refine ⟨fun steps fate allowed => ?_, fun t nothing later => ?_, fun empty steps fate => ⟨fun allowed => ?_,
    fun allowed => ?_⟩⟩
  · rw [take_load_allowed steps allowed, heldOn_after truly reads]
  · exact (twins_take nothing).answers later
  · rw [take_load_allowed steps allowed, heldOn]
    rcases empty with missing | ⟨text, held, blank⟩
    · rw [missing, reading]
    · rw [held, reading, if_pos blank]
  · refine take_delete_allowed steps allowed ?_
    rcases empty with missing | ⟨text, held, -⟩
    · exact .inl missing
    · exact .inr ⟨text, held⟩

section Crashes

def refusing (fault : Access) : Access → Option IoError := fun a => if a = fault then some .permissionDenied else none

/-- A save that is done, between one that is cut and one that fails; a torn one, and a removal that fails. -/
def crashes : List Turn :=
  [⟨.save Progress.halfDoneState, 1, fun _ => none⟩, ⟨.save Progress.halfDoneState, 2, fun _ => none⟩,
    ⟨.save Progress.halfDoneState, 2, refusing (.rename "state.yml.tmp" "state.yml")⟩,
    ⟨.tear [0x72], 1, fun _ => none⟩, ⟨.delete, 1, refusing (.remove "state.yml")⟩]

theorem crashes_left : rehearsedStore.lefts crashes default = [some Progress.halfDoneState] := rfl

/-- The state that was saved is loaded after all that, and after one more save that is cut. -/
theorem crashes_leave_saved_state :
    (Turn.take rehearsedStore ⟨.load, 1, fun _ => none⟩ (rehearsedStore.after crashes default)).1 =
        some (.ok (some Progress.halfDoneState)) ∧
      rehearsedStore.answers [⟨.load, 1, fun _ => none⟩] (Turn.take rehearsedStore
          ⟨.save Progress.halfDoneState, 1, fun _ => none⟩ (rehearsedStore.after crashes default)).2 =
        [some (.ok (some Progress.halfDoneState))] := by
  have saves : ∀ t ∈ crashes, ∀ state, t.call = .save state → state = Progress.halfDoneState := by
    intro t ht state called
    simp only [crashes, List.mem_cons, List.not_mem_nil, or_false] at ht
    rcases ht with rfl | rfl | rfl | rfl | rfl <;> cases called <;> rfl
  have counts : Progress.halfDoneState.IsCountable := by
    refine ⟨by decide, by decide, ?_, nofun, ?_⟩
    · exact show Progress.oneColumn.size < wordCount by decide
    · exact show Schema.empty.size < wordCount by decide
  obtain ⟨loads, kept, -⟩ := state_file_is_an_atomic_cell rehearsedStore default crashes (by decide)
    (fun t ht state called => saves t ht state called ▸ counts)
    (fun t ht state called => saves t ht state called ▸ Progress.halfDone_reads)
  have loaded := loads 0 (fun _ => none) rfl
  rw [crashes_left] at loaded
  refine ⟨loaded, ?_⟩
  rw [kept ⟨.save Progress.halfDoneState, 1, fun _ => none⟩ rfl, answers, loaded]
  rfl

end Crashes

end Turns

end StateStore

end BulkTransfer
