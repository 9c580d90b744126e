import BulkTransfer.Proofs.Disk.Operations
/-!
# Operations on disks that agree

A disk may refuse an access for what is accessed. When it does so whatever the time, two disks that
agree at the place of a path give the same answers there, and agree afterwards as before.
-/
namespace BulkTransfer

namespace Disk

variable {d d' : Disk} {P : Location → Prop} {path source target : String} {l : Location}
  {content data : Bytes} {α : Type}

/-- What is refused is refused at any time. -/
def IsSteady (d : Disk) : Prop := ∀ m n a, d.refusal m a = d.refusal n a

theorem IsSteady.agrees (steady : d.IsSteady) (h : AgreesOn P d d') : d'.IsSteady := by
  intro m n a
  rw [h.refusal]
  exact steady m n a

/-- The same answer, and disks that agree. -/
def Same (P : Location → Prop) (x y : α × Disk) : Prop := x.1 = y.1 ∧ AgreesOn P x.2 y.2

/-- Both fail alike, or both give the same. -/
def Matches (P : Location → Prop) :
    Except IoError (α × Disk) → Except IoError (α × Disk) → Prop
  | .ok x, .ok y => Same P x y
  | .error fault, .error fault' => fault = fault'
  | _, _ => False

/-- A path leads alike on both disks, and if it leads to a place they agree there. -/
structure SameWay (P : Location → Prop) (d d' : Disk) (path : String) : Prop where
  way : d'.resolve path = d.resolve path
  known : ∀ l, d.resolve path = .ok l → P l

theorem SameWay.counted (h : SameWay P d d' path) : SameWay P d.counted d'.counted path := by
  refine ⟨?_, fun l hl => h.known l ?_⟩
  · rw [counted_resolve, counted_resolve]
    exact h.way
  · rwa [counted_resolve] at hl

theorem AgreesOn.counted (h : AgreesOn P d d') : AgreesOn P d.counted d'.counted :=
  ⟨h.directory, h.node, h.refusal⟩

theorem AgreesOn.nodeAt (h : AgreesOn P d d') (same : SameWay P d d' path) :
    d'.nodeAt path = d.nodeAt path := by
  unfold Disk.nodeAt
  rw [same.way]
  cases way : d.resolve path with
  | error fault => rfl
  | ok l =>
    simp only [bind, Except.bind, h.node l (same.known l way)]

theorem AgreesOn.writable (h : AgreesOn P d d') (same : SameWay P d d' path) :
    d'.writable path = d.writable path := by
  unfold Disk.writable
  rw [h.nodeAt same]

theorem AgreesOn.putNode (h : AgreesOn P d d') (plain : isBase l = false) (n : DiskNode) :
    AgreesOn P (d.putNode l n) (d'.putNode l n) where
  directory := by
    intro k
    rw [node?_putNode plain, node?_putNode plain]
    split
    · exact Iff.rfl
    · exact h.directory k
  node := by
    intro k hk
    rw [node?_putNode plain, node?_putNode plain, h.node k hk]
  refusal := h.refusal

theorem AgreesOn.eraseNode (h : AgreesOn P d d') (plain : isBase l = false) :
    AgreesOn P (d.eraseNode l) (d'.eraseNode l) where
  directory := by
    intro k
    rw [node?_eraseNode plain, node?_eraseNode plain]
    split
    · exact Iff.rfl
    · exact h.directory k
  node := by
    intro k hk
    rw [node?_eraseNode plain, node?_eraseNode plain, h.node k hk]
  refusal := h.refusal

/-- Accesses that match on both disks are refused on both or on neither. -/
theorem AgreesOn.attempt (h : AgreesOn P d d') (steady : d.IsSteady) {a : Access}
    {act : Disk → Except IoError (α × Disk)} (acts : Matches P (act d.counted) (act d'.counted)) :
    Same P (d.attempt a act) (d'.attempt a act) := by
  have refused : d'.refusal d'.clock a = d.refusal d.clock a := by
    rw [h.refusal]
    exact steady _ _ a
  unfold Disk.attempt
  rw [refused]
  cases d.refusal d.clock a with
  | some fault => exact ⟨rfl, h.counted⟩
  | none =>
    change Matches P (act { d with clock := d.clock + 1 }) (act { d' with clock := d'.clock + 1 })
      at acts
    dsimp only
    cases first : act { d with clock := d.clock + 1 } with
    | error fault =>
      cases second : act { d' with clock := d'.clock + 1 } with
      | error fault' =>
        rw [first, second] at acts
        exact ⟨congrArg Except.error acts, h.counted⟩
      | ok y =>
        rw [first, second] at acts
        exact acts.elim
    | ok x =>
      cases second : act { d' with clock := d'.clock + 1 } with
      | error fault' =>
        rw [first, second] at acts
        exact acts.elim
      | ok y =>
        rw [first, second] at acts
        exact ⟨congrArg Except.ok acts.1, acts.2⟩

variable (h : AgreesOn P d d') (steady : d.IsSteady)

include h steady

theorem AgreesOn.read (same : SameWay P d d' path) : Same P (d.read path) (d'.read path) := by
  refine h.attempt steady ?_
  rw [h.counted.nodeAt same.counted]
  cases d.counted.nodeAt path with
  | error fault => rfl
  | ok found =>
    obtain ⟨l, node⟩ := found
    match node with
    | some (.file content) => exact ⟨rfl, h.counted⟩
    | some .directory => rfl
    | none => rfl

theorem AgreesOn.create (same : SameWay P d d' path) : Same P (d.create path) (d'.create path) := by
  refine h.attempt steady ?_
  rw [h.counted.writable same.counted]
  cases written : d.counted.writable path with
  | error fault => rfl
  | ok found =>
    obtain ⟨l, old⟩ := found
    obtain ⟨-, -, plain, -⟩ := writable_ok written
    exact ⟨rfl, h.counted.putNode plain _⟩

theorem AgreesOn.append (same : SameWay P d d' path) (data : Bytes) :
    Same P (d.append path data) (d'.append path data) := by
  refine h.attempt steady ?_
  rw [h.counted.nodeAt same.counted]
  cases found : d.counted.nodeAt path with
  | error fault => exact ⟨rfl, h.counted⟩
  | ok pair =>
    obtain ⟨l, node⟩ := pair
    match node, found with
    | some (.file content), found =>
      obtain ⟨rfl, -, held⟩ := nodeAt_file found
      exact ⟨rfl, h.counted.putNode (plain_of_file held) _⟩
    | some .directory, _ => exact ⟨rfl, h.counted⟩
    | none, _ => exact ⟨rfl, h.counted⟩

theorem AgreesOn.remove (same : SameWay P d d' path) : Same P (d.remove path) (d'.remove path) := by
  refine h.attempt steady ?_
  rw [h.counted.nodeAt same.counted]
  cases found : d.counted.nodeAt path with
  | error fault => rfl
  | ok pair =>
    obtain ⟨l, node⟩ := pair
    match node, found with
    | some (.file content), found =>
      obtain ⟨rfl, -, held⟩ := nodeAt_file found
      exact ⟨rfl, h.counted.eraseNode (plain_of_file held)⟩
    | some .directory, _ => rfl
    | none, _ => rfl

theorem AgreesOn.rename (start : SameWay P d d' source) (goal : SameWay P d d' target) :
    Same P (d.rename source target) (d'.rename source target) := by
  refine h.attempt steady ?_
  rw [h.counted.nodeAt start.counted, h.counted.nodeAt goal.counted]
  cases first : d.counted.nodeAt source with
  | error fault => rfl
  | ok pair =>
    obtain ⟨from_, node⟩ := pair
    cases node with
    | none => rfl
    | some node =>
      cases second : d.counted.nodeAt target with
      | error fault => rfl
      | ok pair =>
        obtain ⟨place, old⟩ := pair
        obtain ⟨-, -, there, -⟩ := nodeAt_ok second
        match node, old, there with
        | .directory, some (.file _), _ => rfl
        | .directory, some .directory, _ => rfl
        | .directory, none, _ => rfl
        | .file content, some .directory, _ => rfl
        | .file content, some (.file old), there =>
          obtain ⟨rfl, -, held⟩ := nodeAt_file first
          simp only [bind, Except.bind, pure, Except.pure]
          cases Path.endsAsDirectory target with
          | true => rfl
          | false =>
            exact ⟨rfl, (h.counted.eraseNode (plain_of_file held)).putNode (plain_of_file there) _⟩
        | .file content, none, there =>
          obtain ⟨rfl, -, held⟩ := nodeAt_file first
          simp only [bind, Except.bind, pure, Except.pure]
          cases Path.endsAsDirectory target with
          | true => rfl
          | false =>
            exact ⟨rfl, (h.counted.eraseNode (plain_of_file held)).putNode (plain_of_none there) _⟩

end Disk

end BulkTransfer
