import BulkTransfer.Proofs.Text.Utf8
import BulkTransfer.Proofs.Transfer.Attempts
/-!
# What a state store holds

A store holds what the text of its file says. As long as its operations succeed, it gives what it holds,
holds nothing after it was emptied, and holds a state after that was saved.
-/
namespace BulkTransfer

namespace Disk

variable {d : Disk} {path : String} {data : Bytes}

/-- A removal that was told to be done, or to have nothing to do, leaves nothing at the path. -/
theorem remove_missing (ends : (d.remove path).1 = .ok () ∨ (d.remove path).1 = .error .notFound)
    (told : d.refusal d.clock (.remove path) ≠ some .notFound) :
    (d.remove path).2.nodeAt path = .error .notFound ∨
      ∃ l, (d.remove path).2.nodeAt path = .ok (l, none) := by
  unfold remove at ends ⊢
  cases refused : d.refusal d.clock (.remove path) with
  | some fault =>
    simp only [attempt, refused] at ends
    rcases ends with ends | ends
    · cases ends
    · cases ends
      exact absurd refused told
  | none =>
    cases found : d.counted.nodeAt path with
    | error fault =>
      rw [attempt_error refused (show _ = Except.error fault by rw [found]; rfl)] at ends ⊢
      rcases ends with ends | ends
      · cases ends
      · cases ends
        exact .inl found
    | ok pair =>
      obtain ⟨l, node⟩ := pair
      cases node with
      | none =>
        rw [attempt_error refused (show _ = Except.error IoError.notFound by rw [found]; rfl)]
        exact .inr ⟨l, found⟩
      | some node =>
        cases node with
        | directory =>
          rw [attempt_error refused (show _ = Except.error IoError.isADirectory by rw [found]; rfl)] at ends
          rcases ends with ends | ends <;> cases ends
        | file content =>
          obtain ⟨rfl, way, held⟩ := nodeAt_file found
          rw [attempt_ok refused (show _ = Except.ok ((), d.counted.eraseNode (Path.place path)) by
            rw [found]; rfl)]
          have erased : (d.counted.eraseNode (Path.place path)).node? (Path.place path) = none := by
            rw [node?_eraseNode (plain_of_file held), if_pos rfl]
          exact .inr ⟨_, (way.agrees (eraseNode_agrees held)).nodeAt.trans (by rw [erased])⟩

/-- A file that was written holds what was written, if that was told. -/
theorem write_told (told : (d.write path data).1 = .ok ()) :
    (d.write path data).2.node? (Path.place path) = some (.file data) := by
  unfold write at told ⊢
  rcases d.create_spec path with ⟨fault, refused, -⟩ | ⟨made, -, way, empty⟩
  · have created : d.create path = (.error fault, (d.create path).2) := Prod.ext refused rfl
    rw [created] at told
    cases told
  · have created : d.create path = (.ok (), (d.create path).2) := Prod.ext made rfl
    rw [created] at told ⊢
    exact ((d.create path).2.append_spec path data).2.2 told way [] empty

end Disk

namespace StateStore

variable {s : StateStore} {w : World} {state : ResumeState} {held : Option ResumeState}

/-- The text of the file, if there is one, whatever is refused at the moment. -/
def textOn (s : StateStore) (d : Disk) : Except IoError String :=
  match d.nodeAt s.path with
  | .error cause => .error cause
  | .ok (_, none) => .error .notFound
  | .ok (_, some .directory) => .error .isADirectory
  | .ok (_, some (.file content)) => (Utf8.decode content).mapError fun _ => .notUtf8

def heldOn (s : StateStore) (d : Disk) : Except StateStoreError (Option ResumeState) :=
  s.reading (s.textOn d)

/-- The store is read, and is not told that its file is missing when it is not. -/
structure Loads (s : StateStore) (w : World) (held : Option ResumeState) : Prop where
  told : (s.load.run w).1 = .ok held
  truly : w.disk.refusal w.disk.clock (.read s.path) ≠ some .notFound

/-- The store is emptied, and is not told that its file is missing when it is not. -/
structure Deletes (s : StateStore) (w : World) : Prop where
  told : (s.delete.run w).1 = .ok ()
  truly : w.disk.refusal w.disk.clock (.remove s.path) ≠ some .notFound

/-- A state is saved whose text reads back as the state. -/
structure Saves (s : StateStore) (state : ResumeState) (w : World) : Prop where
  told : ((s.save state).run w).1 = .ok ()
  readsBack : s.reading (.ok state.yaml) = .ok (some state)

theorem textOn_congr {d d' : Disk} (same : d'.nodes = d.nodes) : s.textOn d' = s.textOn d := by
  rw [textOn, textOn, d.nodeAt_congr same]

theorem textOn_of_file {d : Disk} {text : String} (way : d.LeadsTo s.path)
    (there : d.node? (Path.place s.path) = some (.file (Utf8.encode text))) : s.textOn d = .ok text := by
  rw [textOn, way.nodeAt, there]
  exact congrArg (Except.mapError _) (Utf8.decode_encode text)

theorem readText_textOn {d : Disk} (allowed : d.refusal d.clock (.read s.path) = none) :
    (d.readText s.path).1 = s.textOn d := by
  have same : Disk.nodeAt { d with clock := d.clock + 1 } s.path = d.nodeAt s.path := d.nodeAt_congr rfl
  unfold Disk.readText Disk.read Disk.attempt textOn
  rw [allowed]
  dsimp only
  rw [same]
  cases d.nodeAt s.path with
  | error cause => rfl
  | ok found =>
    obtain ⟨l, node⟩ := found
    cases node with
    | none => rfl
    | some node =>
      cases node with
      | directory => rfl
      | file content =>
        simp only [bind, Except.bind, pure, Except.pure]
        cases Utf8.decode content <;> rfl

theorem Loads.found (h : s.Loads w held) : s.heldOn w.disk = .ok held := by
  have told := h.told
  rw [load_run] at told
  dsimp only at told
  cases refused : w.disk.refusal w.disk.clock (.read s.path) with
  | none => rwa [readText_textOn refused] at told
  | some fault =>
    have text : (w.disk.readText s.path).1 = .error fault := by
      simp only [Disk.readText, Disk.read, Disk.attempt, refused]
    rw [text] at told
    cases fault with
    | notFound => exact absurd refused h.truly
    | _ => cases told

/-- A store that may be read gives what it holds. -/
theorem loads_of_heldOn (holds : s.heldOn w.disk = .ok held)
    (allowed : w.disk.refusal w.disk.clock (.read s.path) = none) : s.Loads w held where
  told := by
    rw [load_run, readText_textOn allowed]
    exact holds
  truly := by
    rw [allowed]
    nofun

theorem heldOn_missing {d : Disk} (missing : s.textOn d = .error .notFound) : s.heldOn d = .ok none := by
  rw [heldOn, missing, reading]

/-- What is made of a removal of the file. -/
def emptying (s : StateStore) : Except IoError Unit → Except StateStoreError Unit
  | .ok () => .ok ()
  | .error .notFound => .ok ()
  | .error cause => .error (.io s.path cause)

theorem delete_eq (s : StateStore) :
    s.delete = (Program.onDisk (·.remove s.path)).andThen fun r => .done (s.emptying r) := by
  refine congrArg (Program.andThen _) (funext fun r => ?_)
  cases r with
  | ok _ => rfl
  | error cause => cases cause <;> rfl

theorem delete_run (s : StateStore) (w : World) : s.delete.run w =
    (s.emptying (w.disk.remove s.path).1, { w with disk := (w.disk.remove s.path).2 }) := by
  rw [delete_eq, Program.run_andThen]
  rfl

theorem Deletes.emptied (h : s.Deletes w) : s.heldOn (s.delete.run w).2.disk = .ok none := by
  have told := h.told
  rw [delete_run] at told ⊢
  have ends : (w.disk.remove s.path).1 = .ok () ∨ (w.disk.remove s.path).1 = .error .notFound := by
    dsimp only at told
    cases removed : (w.disk.remove s.path).1 with
    | ok _ => exact .inl rfl
    | error cause =>
      rw [removed] at told
      cases cause with
      | notFound => exact .inr rfl
      | _ => cases told
  refine heldOn_missing ?_
  rcases Disk.remove_missing ends h.truly with missing | ⟨l, missing⟩
  · rw [textOn, missing]
  · rw [textOn, missing]

theorem access_run {α : Type} (s : StateStore) (operation : Disk → Except IoError α × Disk) (w : World) :
    (s.access operation).run w =
      ((operation w.disk).1.mapError (StateStoreError.io s.path),
        { w with disk := (operation w.disk).2 }) := rfl

theorem save_run (s : StateStore) (state : ResumeState) (w : World) : (s.save state).run w =
    let written := w.disk.write s.besidePath (Utf8.encode state.yaml)
    match written.1 with
    | .error cause => (.error (.io s.path cause), { w with disk := written.2 })
    | .ok () => ((written.2.rename s.besidePath s.path).1.mapError (StateStoreError.io s.path),
      { w with disk := (written.2.rename s.besidePath s.path).2 }) := by
  change (Program.andThen (s.access (·.write s.besidePath (Utf8.encode state.yaml))) _).run w = _
  rw [Program.run_andThen, access_run]
  dsimp only
  cases (w.disk.write s.besidePath (Utf8.encode state.yaml)).1 <;> rfl

/-- After a state was saved, the file holds its text and nothing else. -/
theorem Saves.written (h : s.Saves state w) :
    s.textOn ((s.save state).run w).2.disk = .ok state.yaml := by
  have told := h.told
  rw [save_run] at told ⊢
  dsimp only at told ⊢
  cases written : (w.disk.write s.besidePath (Utf8.encode state.yaml)).1 with
  | error cause =>
    rw [written] at told
    cases told
  | ok _ =>
    rw [written] at told
    dsimp only at told ⊢
    have file := Disk.write_told written
    generalize (w.disk.write s.besidePath (Utf8.encode state.yaml)).2 = d at told file ⊢
    rcases d.rename_spec s.besidePath s.path with
      ⟨fault, refused, -⟩ | ⟨-, way, same, content, from_, there, -⟩
    · rw [refused] at told
      cases told
    · rw [file] at from_
      cases from_
      exact textOn_of_file (way.agrees same) there

theorem Saves.kept (h : s.Saves state w) : s.heldOn ((s.save state).run w).2.disk = .ok (some state) := by
  rw [heldOn, h.written, h.readsBack]

end StateStore

end BulkTransfer
