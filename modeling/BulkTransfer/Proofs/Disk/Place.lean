import BulkTransfer.Disk.Basic
/-!
# Places and frames

The names of a path alone decide to which place it leads; whether there is a way depends on the
directories of the disk and on nothing else. An operation on a path changes no node but the one at
its place, so what others hold elsewhere stays.
-/
namespace BulkTransfer

namespace Disk

/-- One step along the names of a path. -/
def enter (l : Location) (name : String) : Location :=
  if name = "." then l else if name = ".." then parentOf l else l ++ [name]

end Disk

/-- Where the names of a path lead, whatever is on the disk. -/
def Path.place (path : String) : Location :=
  (names path).foldl Disk.enter (if isAbsolute path then ["/"] else [])

namespace Disk

variable {d d' d'' : Disk} {path source target : String} {l : Location} {content data : Bytes}
  {P S : Location → Prop}

/-- There is a way to the place of the path, and a file can be there. -/
def LeadsTo (d : Disk) (path : String) : Prop :=
  d.resolve path = .ok (Path.place path) ∧ Path.endsAsDirectory path = false

def IsVacant (d : Disk) (l : Location) : Prop := ∀ content, d.node? l ≠ some (.file content)

/-- What is read from a path. -/
def fileAt? (d : Disk) (path : String) : Option Bytes :=
  match d.nodeAt path with
  | .ok (_, some (.file content)) => some content
  | _ => none

/-- The later disk has the same directories, refuses the same accesses, and has the same nodes at
these places. -/
structure AgreesOn (P : Location → Prop) (d d' : Disk) : Prop where
  directory : ∀ l, d'.node? l = some .directory ↔ d.node? l = some .directory
  node : ∀ l, P l → d'.node? l = d.node? l
  refusal : d'.refusal = d.refusal

/-- The later disk has the same files and may have more directories. -/
structure GrowsTo (d d' : Disk) : Prop where
  file : ∀ l content, d'.node? l = some (.file content) ↔ d.node? l = some (.file content)
  directory : ∀ l, d.node? l = some .directory → d'.node? l = some .directory
  refusal : d'.refusal = d.refusal

namespace AgreesOn

theorem refl (P : Location → Prop) (d : Disk) : AgreesOn P d d :=
  ⟨fun _ => .rfl, fun _ _ => rfl, rfl⟩

theorem trans (h : AgreesOn P d d') (h' : AgreesOn P d' d'') : AgreesOn P d d'' :=
  ⟨fun l => (h'.directory l).trans (h.directory l),
    fun l hl => (h'.node l hl).trans (h.node l hl), h'.refusal.trans h.refusal⟩

theorem mono (h : AgreesOn P d d') (sub : ∀ l, S l → P l) : AgreesOn S d d' :=
  ⟨h.directory, fun l hl => h.node l (sub l hl), h.refusal⟩

theorem symm (h : AgreesOn P d d') : AgreesOn P d' d :=
  ⟨fun l => (h.directory l).symm, fun l hl => (h.node l hl).symm, h.refusal.symm⟩

theorem vacant (h : AgreesOn P d d') (hl : P l) (vacant : d.IsVacant l) : d'.IsVacant l := by
  intro content
  rw [h.node l hl]
  exact vacant content

end AgreesOn

namespace GrowsTo

theorem refl (d : Disk) : GrowsTo d d := ⟨fun _ _ => .rfl, fun _ h => h, rfl⟩

theorem trans (h : GrowsTo d d') (h' : GrowsTo d' d'') : GrowsTo d d'' :=
  ⟨fun l content => (h'.file l content).trans (h.file l content),
    fun l hl => h'.directory l (h.directory l hl), h'.refusal.trans h.refusal⟩

theorem vacant (h : GrowsTo d d') (vacant : d.IsVacant l) : d'.IsVacant l :=
  fun content found => vacant content ((h.file l content).mp found)

end GrowsTo

theorem AgreesOn.grows (h : AgreesOn (fun _ => True) d d') : GrowsTo d d' :=
  ⟨fun l content => by rw [h.node l trivial], fun l hl => (h.directory l).mpr hl, h.refusal⟩

section Ways

theorem walk_place {names : List String} {l'  : Location} (h : d.walk l names = .ok l') :
    l' = names.foldl enter l := by
  induction names generalizing l with
  | nil =>
    cases h
    rfl
  | cons name rest ih =>
    rw [walk] at h
    rw [List.foldl_cons, enter]
    split at h
    · rename_i dot
      rw [if_pos dot]
      exact ih h
    · rename_i dot
      rw [if_neg dot]
      split at h
      · rename_i up
        rw [if_pos up]
        exact ih h
      · rename_i up
        rw [if_neg up]
        split at h
        · cases h
        · cases rest with
          | nil =>
            cases h
            rfl
          | cons next others =>
            dsimp only at h
            split at h
            · exact ih h
            · cases h
            · cases h

/-- A way that is there stays while directories stay. -/
theorem walk_mono (h : ∀ l, d.node? l = some .directory → d'.node? l = some .directory)
    {names : List String} {l' : Location} (way : d.walk l names = .ok l') :
    d'.walk l names = .ok l' := by
  induction names generalizing l with
  | nil => exact way
  | cons name rest ih =>
    rw [walk] at way ⊢
    split at way
    · rename_i dot
      rw [if_pos dot]
      exact ih way
    · rename_i dot
      rw [if_neg dot]
      split at way
      · rename_i up
        rw [if_pos up]
        exact ih way
      · rename_i up
        rw [if_neg up]
        split at way
        · cases way
        · rename_i short
          rw [if_neg short]
          cases rest with
          | nil => exact way
          | cons next others =>
            dsimp only at way ⊢
            split at way
            · rename_i directory
              rw [h _ directory]
              exact ih way
            · cases way
            · cases way

theorem walk_congr (same : d'.nodes = d.nodes) (l : Location) (names : List String) :
    d'.walk l names = d.walk l names := by
  induction names generalizing l with
  | nil => rfl
  | cons name rest ih =>
    have node : ∀ l, d'.node? l = d.node? l := fun l => by rw [node?, node?, same]
    unfold walk
    simp only [ih, node]

theorem resolve_congr (same : d'.nodes = d.nodes) : d'.resolve path = d.resolve path := by
  rw [resolve, resolve, walk_congr same]

/-- What is at a path depends on nothing but the nodes. -/
theorem nodeAt_congr (same : d'.nodes = d.nodes) : d'.nodeAt path = d.nodeAt path := by
  have node : ∀ l, d'.node? l = d.node? l := fun l => by rw [node?, node?, same]
  simp only [nodeAt, resolve_congr same, node]

theorem resolve_place (h : d.resolve path = .ok l) : l = Path.place path := by
  unfold resolve at h
  split at h
  · cases h
  · split at h
    · cases h
    · split at h
      · cases h
      · exact walk_place h

theorem resolve_mono (h : ∀ l, d.node? l = some .directory → d'.node? l = some .directory)
    (way : d.resolve path = .ok l) : d'.resolve path = .ok l := by
  unfold resolve at way ⊢
  split at way
  · cases way
  · rename_i filled
    split at way
    · cases way
    · rename_i clean
      split at way
      · cases way
      · rename_i short
        rw [if_neg filled, if_neg clean, if_neg short]
        exact walk_mono h way

theorem LeadsTo.mono (way : d.LeadsTo path)
    (h : ∀ l, d.node? l = some .directory → d'.node? l = some .directory) : d'.LeadsTo path :=
  ⟨resolve_mono h way.1, way.2⟩

theorem LeadsTo.agrees (way : d.LeadsTo path) (h : AgreesOn P d d') : d'.LeadsTo path :=
  way.mono fun l => (h.directory l).mpr

theorem LeadsTo.nodeAt (way : d.LeadsTo path) :
    d.nodeAt path = .ok (Path.place path, d.node? (Path.place path)) := by
  rw [Disk.nodeAt, way.1]
  cases found : d.node? (Path.place path) with
  | none => simp [bind, Except.bind, found, pure, Except.pure]
  | some n =>
    cases n with
    | file content => simp [bind, Except.bind, found, way.2, pure, Except.pure]
    | directory => simp [bind, Except.bind, found, pure, Except.pure]

theorem nodeAt_ok {n : Option DiskNode} (h : d.nodeAt path = .ok (l, n)) :
    l = Path.place path ∧ d.resolve path = .ok l ∧ d.node? l = n ∧
      (Path.endsAsDirectory path = true → ∀ content, n ≠ some (.file content)) := by
  unfold Disk.nodeAt at h
  cases way : d.resolve path with
  | error e => simp [way, bind, Except.bind] at h
  | ok place =>
    simp only [way, bind, Except.bind] at h
    cases found : d.node? place with
    | none =>
      simp only [found, pure, Except.pure] at h
      cases h
      exact ⟨resolve_place way, rfl, found, by simp⟩
    | some node =>
      cases node with
      | directory =>
        simp only [found, pure, Except.pure] at h
        cases h
        exact ⟨resolve_place way, rfl, found, by simp⟩
      | file content =>
        simp only [found] at h
        split at h
        · cases h
        · rename_i plain
          cases h
          exact ⟨resolve_place way, rfl, found, fun ends => absurd ends plain⟩

theorem nodeAt_file (h : d.nodeAt path = .ok (l, some (.file content))) :
    l = Path.place path ∧ d.LeadsTo path ∧ d.node? (Path.place path) = some (.file content) := by
  obtain ⟨rfl, way, found, plain⟩ := nodeAt_ok h
  exact ⟨rfl, ⟨way, Bool.eq_false_iff.mpr fun ends => plain ends content rfl⟩, found⟩

theorem fileAt?_eq :
    d.fileAt? path = some content ↔
      d.LeadsTo path ∧ d.node? (Path.place path) = some (.file content) := by
  constructor
  · intro h
    unfold fileAt? at h
    split at h
    · rename_i found
      cases h
      exact (nodeAt_file found).2
    · cases h
  · rintro ⟨way, found⟩
    rw [fileAt?, way.nodeAt, found]

/-- Where a disk agrees with a later one, the files are the same. -/
theorem AgreesOn.fileAt? (h : AgreesOn P d d') (hl : P (Path.place path)) :
    d'.fileAt? path = d.fileAt? path := by
  refine Option.ext fun content => ?_
  rw [fileAt?_eq, fileAt?_eq, h.node _ hl]
  constructor
  · rintro ⟨way, held⟩
    exact ⟨way.mono fun l => (h.directory l).mp, held⟩
  · rintro ⟨way, held⟩
    exact ⟨way.agrees h, held⟩

theorem GrowsTo.fileAt? (h : GrowsTo d d') (held : d.fileAt? path = some content) :
    d'.fileAt? path = some content := by
  obtain ⟨way, file⟩ := fileAt?_eq.mp held
  exact fileAt?_eq.mpr ⟨way.mono h.directory, (h.file _ content).mpr file⟩

end Ways

end Disk

end BulkTransfer
