import BulkTransfer.Local.Output
import BulkTransfer.Proofs.Disk.Removal
import BulkTransfer.Proofs.World.Region
import Mathlib.Logic.Relation
/-!
# Sweeping up after failures

A cleanup that may be hindered at any of its removals. It takes nothing but listed files, and once it has
passed none of them is left; where it was stopped, the next one gets on as if it had not been stopped.
This is so of a single removal, and of two such actions in turn.
-/
namespace BulkTransfer

/-- Two ends of an action that answer alike and leave the same on the disk. -/
def EndsAlike (x y : Attempt Unit × World) : Prop := x.1 = y.1 ∧ x.2.disk.nodes = y.2.disk.nodes

theorem EndsAlike.trans {x y z : Attempt Unit × World} (h : EndsAlike x y) (h' : EndsAlike y z) :
    EndsAlike x z := ⟨h.1.trans h'.1, h.2.trans h'.2⟩

/-- One attempt leads from these nodes to those, whatever is refused on the way. -/
def Attempted {α : Type} (p : Action α) (a b : List (Location × DiskNode)) : Prop :=
  ∃ w : World, w.disk.IsHonest ∧ w.disk.nodes = a ∧ (p.run w).2.disk.nodes = b

/-- What can be relied on of an action that removes the files at some paths. -/
structure Tidies (P : String → Prop) (a : Action (Attempt Unit)) : Prop where
  sheds : ∀ w : World, w.disk.Sheds P (a.run w).2.disk
  /-- Unhindered, it depends on nothing but what is on the disk. -/
  alike : ∀ {u v : World}, u.disk.Allows P → v.disk.Allows P → v.disk.nodes = u.disk.nodes →
    EndsAlike (a.run u) (a.run v)
  gone : ∀ {w : World}, w.disk.IsHonest → (a.run w).1 = .ok () →
    ∀ path, P path → (a.run w).2.disk.IsGone path
  allowed : ∀ {w : World}, w.disk.IsHonest → (a.run w).1 = .ok () →
    ∀ path, P path → ∃ n, w.disk.refusal n (.remove path) = none
  /-- When it has passed, nothing hindered it. -/
  passes : ∀ {w u : World}, w.disk.IsHonest → (a.run w).1 = .ok () → u.disk.Allows P →
    u.disk.nodes = w.disk.nodes → EndsAlike (a.run w) (a.run u)
  /-- When it has passed, it passes again wherever all is gone. -/
  idles : ∀ {w v : World}, w.disk.IsHonest → (a.run w).1 = .ok () → v.disk.Allows P →
    (∀ path, P path → v.disk.IsGone path) → (a.run v).1 = .ok ()
  /-- After an attempt it ends as if there had been none. -/
  resumes : ∀ {w u v : World}, w.disk.IsHonest → u.disk.Allows P → v.disk.Allows P →
    u.disk.nodes = w.disk.nodes → v.disk.nodes = (a.run w).2.disk.nodes →
      EndsAlike (a.run u) (a.run v)

namespace Tidies

variable {P Q : String → Prop} {a b : Action (Attempt Unit)}

theorem idle (h : Tidies P a) {w v : World} (honest : w.disk.IsHonest) (passed : (a.run w).1 = .ok ())
    (allows : v.disk.Allows P) (gone : ∀ path, P path → v.disk.IsGone path) :
    (a.run v).1 = .ok () ∧ (a.run v).2.disk.nodes = v.disk.nodes :=
  ⟨h.idles honest passed allows gone, (h.sheds v).unchanged gone⟩

/-- What ends at once has nothing to tidy up, if it passes. -/
theorem done {answer : Attempt Unit} (none : answer = .ok () → ∀ path, ¬ P path) :
    Tidies P (.done answer) where
  sheds w := .refl P w.disk
  alike _ _ same := ⟨rfl, same.symm⟩
  gone _ passed path listed := absurd listed (none passed path)
  allowed _ passed path listed := absurd listed (none passed path)
  passes _ _ _ same := ⟨rfl, same.symm⟩
  idles _ passed _ _ := passed
  resumes _ _ _ start left := ⟨rfl, start.trans left.symm⟩

/-- The second action is done only if the first one has passed. -/
def inTurn (a b : Action (Attempt Unit)) : Action (Attempt Unit) := do
  match ← a with
  | .error e => return .error e
  | .ok () => b

theorem inTurn_run (a b : Action (Attempt Unit)) (w : World) :
    (inTurn a b).run w = match (a.run w).1 with
      | .error e => (.error e, (a.run w).2)
      | .ok () => b.run (a.run w).2 := by
  rw [inTurn, Program.run_bind]
  cases (a.run w).1 <;> rfl

theorem inTurn_stopped {w : World} {e : PluginError} (stopped : (a.run w).1 = .error e) :
    (inTurn a b).run w = (.error e, (a.run w).2) := by
  rw [inTurn_run, stopped]

theorem inTurn_passed {w : World} (passed : (a.run w).1 = .ok ()) :
    (inTurn a b).run w = b.run (a.run w).2 := by
  rw [inTurn_run, passed]

theorem inTurn_ok {w : World} (passed : ((inTurn a b).run w).1 = .ok ()) :
    (a.run w).1 = .ok () ∧ (b.run (a.run w).2).1 = .ok () := by
  cases ran : (a.run w).1 with
  | error e =>
    rw [inTurn_stopped ran] at passed
    cases passed
  | ok =>
    rw [inTurn_passed ran] at passed
    exact ⟨rfl, passed⟩

/-- The paths of two actions. -/
abbrev both (P Q : String → Prop) : String → Prop := fun path => P path ∨ Q path

theorem allows_first {d : Disk} (allows : d.Allows (both P Q)) : d.Allows P :=
  fun path listed => allows path (.inl listed)

theorem allows_second (h : Tidies P a) {w : World} (allows : w.disk.Allows (both P Q)) :
    (a.run w).2.disk.Allows Q :=
  (h.sheds w).allows fun path listed => allows path (.inr listed)

/-- Both stop with the first action, or both go on with the second one on the same nodes. -/
theorem turns_alike (h : Tidies P a) (k : Tidies Q b) {u v : World} (allows : u.disk.Allows (both P Q))
    (allows' : v.disk.Allows (both P Q)) (same : EndsAlike (a.run u) (a.run v)) :
    EndsAlike ((inTurn a b).run u) ((inTurn a b).run v) := by
  cases ran : (a.run u).1 with
  | error e =>
    rw [inTurn_stopped ran, inTurn_stopped (same.1.symm.trans ran)]
    exact ⟨rfl, same.2⟩
  | ok =>
    rw [inTurn_passed ran, inTurn_passed (same.1.symm.trans ran)]
    exact k.alike (h.allows_second allows) (h.allows_second allows') same.2.symm

theorem turns_resumes (h : Tidies P a) (k : Tidies Q b) {w u v : World} (honest : w.disk.IsHonest)
    (allows : u.disk.Allows (both P Q)) (allows' : v.disk.Allows (both P Q))
    (start : u.disk.nodes = w.disk.nodes) (rest : v.disk.nodes = ((inTurn a b).run w).2.disk.nodes) :
    EndsAlike ((inTurn a b).run u) ((inTurn a b).run v) := by
  cases ran : (a.run w).1 with
  | error e =>
    rw [inTurn_stopped ran] at rest
    exact h.turns_alike k allows allows'
      (h.resumes honest (allows_first allows) (allows_first allows') start rest)
  | ok =>
    rw [inTurn_passed ran] at rest
    have alike := h.passes honest ran (allows_first allows) start
    -- What the first action has removed is still gone behind the second one.
    have gone : ∀ path, P path → v.disk.IsGone path := fun path listed =>
      ((k.sheds _).isGone (h.gone honest ran path listed)).of_nodes rest
    obtain ⟨again, same⟩ := h.idle honest ran (allows_first allows') gone
    rw [inTurn_passed (alike.1.symm.trans ran), inTurn_passed again]
    exact k.resumes ((h.sheds w).isHonest honest) (h.allows_second allows) (h.allows_second allows')
      alike.2.symm (same.trans rest)

theorem turns (h : Tidies P a) (k : Tidies Q b) : Tidies (both P Q) (inTurn a b) where
  sheds := by
    intro w
    have first := (h.sheds w).mono (Q := both P Q) fun _ => .inl
    cases ran : (a.run w).1 with
    | error e => rwa [inTurn_stopped ran]
    | ok =>
      rw [inTurn_passed ran]
      exact first.trans ((k.sheds (a.run w).2).mono fun _ => .inr)
  alike allows allows' same :=
    h.turns_alike k allows allows' (h.alike (allows_first allows) (allows_first allows') same)
  gone := by
    intro w honest passed path listed
    obtain ⟨first, second⟩ := inTurn_ok passed
    rw [inTurn_passed first]
    rcases listed with listed | listed
    · exact (k.sheds _).isGone (h.gone honest first path listed)
    · exact k.gone ((h.sheds w).isHonest honest) second path listed
  allowed := by
    intro w honest passed path listed
    obtain ⟨first, second⟩ := inTurn_ok passed
    rcases listed with listed | listed
    · exact h.allowed honest first path listed
    · rw [← (h.sheds w).refusal]
      exact k.allowed ((h.sheds w).isHonest honest) second path listed
  passes := by
    intro w u honest passed allows same
    obtain ⟨first, second⟩ := inTurn_ok passed
    have alike := h.passes honest first (allows_first allows) same
    rw [inTurn_passed first, inTurn_passed (alike.1.symm.trans first)]
    exact k.passes ((h.sheds w).isHonest honest) second (h.allows_second allows) alike.2.symm
  idles := by
    intro w v honest passed allows gone
    obtain ⟨first, second⟩ := inTurn_ok passed
    obtain ⟨again, same⟩ := h.idle honest first (allows_first allows) fun path listed =>
      gone path (.inl listed)
    rw [inTurn_passed again]
    exact k.idles ((h.sheds w).isHonest honest) second (h.allows_second allows) fun path listed =>
      (gone path (.inr listed)).of_nodes same
  resumes honest allows allows' start rest := h.turns_resumes k honest allows allows' start rest

/-- Behind an action that leaves the disk alone it is still so. -/
theorem behind {α : Type} {p : Action α} (h : Tidies P a) (keeps : ∀ w, (p.run w).2.disk = w.disk) :
    Tidies P (p.andThen fun _ => a) := by
  have runs : ∀ w, (p.andThen fun _ => a).run w = a.run (p.run w).2 := fun w => Program.run_andThen p _ w
  constructor
  · intro w
    have sheds := h.sheds (p.run w).2
    rwa [keeps, ← runs] at sheds
  · intro u v allows allows' same
    rw [runs, runs]
    rw [← keeps] at allows allows' same
    rw [← keeps u] at same
    exact h.alike allows allows' same
  · intro w honest passed
    rw [runs] at passed ⊢
    rw [← keeps] at honest
    exact h.gone honest passed
  · intro w honest passed
    rw [runs] at passed
    rw [← keeps] at honest
    have allowed := h.allowed honest passed
    rwa [keeps] at allowed
  · intro w u honest passed allows same
    rw [runs] at passed
    rw [runs, runs]
    rw [← keeps] at honest allows same
    rw [← keeps w] at same
    exact h.passes honest passed allows same
  · intro w v honest passed allows gone
    rw [runs] at passed ⊢
    rw [← keeps] at honest allows gone
    exact h.idles honest passed allows gone
  · intro w u v honest allows allows' start rest
    rw [runs] at rest
    rw [runs, runs]
    rw [← keeps] at honest allows allows' start rest
    rw [← keeps w] at start
    exact h.resumes honest allows allows' start rest

theorem of_iff (h : Tidies P a) (same : ∀ path, P path ↔ Q path) : Tidies Q a := by
  obtain rfl : P = Q := funext fun path => propext (same path)
  exact h

/-- After any attempts it ends as if there had been none. -/
theorem resumes_after (h : Tidies P a) {u v : World}
    (attempts : Relation.ReflTransGen (Attempted a) u.disk.nodes v.disk.nodes) (allows : u.disk.Allows P)
    (allows' : v.disk.Allows P) : EndsAlike (a.run u) (a.run v) := by
  generalize reached : v.disk.nodes = nodes at attempts
  induction attempts generalizing v with
  | refl => exact h.alike allows allows' reached
  | @tail middle last _ attempt ih =>
    obtain ⟨w, honest, start, rest⟩ := attempt
    have before := ih (v := { u with disk := { u.disk with nodes := middle } }) allows rfl
    exact before.trans (h.resumes honest allows allows' start.symm (reached.trans rest.symm))

end Tidies

namespace LocalOutput

open Disk Tidies

variable {path : String} {w : World}

/-- Of listed files the first one is removed, or is gone, and the others come next; or it is left, and they
are left, too. -/
theorem removeListed_cases (path : String) (rest : List String) (w : World) :
    (((w.disk.remove path).1 = .ok () ∨ (w.disk.remove path).1 = .error .notFound) ∧
        (removeListed (path :: rest)).run w =
          (removeListed rest).run { w with disk := (w.disk.remove path).2 }) ∨
      ∃ cause, (w.disk.remove path).1 = .error cause ∧ cause ≠ .notFound ∧
        (removeListed (path :: rest)).run w =
          (.error (.file path cause), { w with disk := (w.disk.remove path).2 }) := by
  have ran : (Program.onDisk (·.remove path) : Action _).run w =
      ((w.disk.remove path).1, { w with disk := (w.disk.remove path).2 }) := rfl
  rw [removeListed, Program.run_bind, ran]
  cases told : (w.disk.remove path).1 with
  | ok => exact .inl ⟨.inl rfl, rfl⟩
  | error cause =>
    by_cases gone : cause = .notFound
    · subst gone
      exact .inl ⟨.inr rfl, rfl⟩
    · refine .inr ⟨cause, rfl, gone, ?_⟩
      cases cause <;> first | rfl | exact absurd rfl gone

theorem removeListed_cons (path : String) (rest : List String) :
    removeListed (path :: rest) = inTurn (removeListed [path]) (removeListed rest) := by
  refine congrArg (Program.step _) (funext fun w => ?_)
  dsimp only
  generalize (w.disk.remove path).1 = told
  cases told with
  | ok => rfl
  | error cause => cases cause <;> rfl

theorem removeListed_one_ok (path : String) (w : World) :
    ((removeListed [path]).run w).1 = .ok () ↔
      (w.disk.remove path).1 = .ok () ∨ (w.disk.remove path).1 = .error .notFound := by
  rcases removeListed_cases path [] w with ⟨passed, ran⟩ | ⟨cause, failed, other, ran⟩
  · rw [ran]
    exact iff_of_true rfl passed
  · rw [ran, failed]
    simp [other]

theorem removeListed_one_disk (path : String) (w : World) :
    ((removeListed [path]).run w).2.disk = (w.disk.remove path).2 := by
  rcases removeListed_cases path [] w with ⟨-, ran⟩ | ⟨_, -, -, ran⟩
  · rw [ran]
    rfl
  · rw [ran]

theorem removeListed_one_alike {u v : World} (same : (u.disk.remove path).1 = (v.disk.remove path).1 ∧
    (u.disk.remove path).2.nodes = (v.disk.remove path).2.nodes) :
    EndsAlike ((removeListed [path]).run u) ((removeListed [path]).run v) := by
  refine ⟨?_, by rw [removeListed_one_disk, removeListed_one_disk, same.2]⟩
  rcases removeListed_cases path [] u with ⟨passed, ran⟩ | ⟨cause, failed, other, ran⟩
  · have also := (removeListed_one_ok path v).mpr (same.1 ▸ passed)
    rw [ran, also]
    rfl
  · rcases removeListed_cases path [] v with ⟨passed, -⟩ | ⟨cause', failed', -, ran'⟩
    · rw [← same.1, failed] at passed
      rcases passed with ok | gone
      · cases ok
      · exact absurd (Except.error.inj gone) other
    · rw [← same.1, failed] at failed'
      rw [ran, ran', Except.error.inj failed']

theorem removeListed_one (path : String) : Tidies (· = path) (removeListed [path]) where
  sheds := by
    intro w
    rw [removeListed_one_disk]
    exact w.disk.remove_sheds path
  alike allows allows' same :=
    removeListed_one_alike (Disk.remove_alike (allows path rfl _) (allows' path rfl _) same)
  gone := by
    rintro w honest passed _ rfl
    rw [removeListed_one_disk]
    exact (Disk.remove_passed honest ((removeListed_one_ok _ w).mp passed)).2
  allowed := by
    rintro w honest passed _ rfl
    exact ⟨_, (Disk.remove_passed honest ((removeListed_one_ok _ w).mp passed)).1⟩
  passes := by
    intro w u honest passed allows same
    have open_ := (Disk.remove_passed honest ((removeListed_one_ok _ w).mp passed)).1
    exact removeListed_one_alike (Disk.remove_alike open_ (allows path rfl _) same)
  idles := by
    intro w v _ _ allows gone
    exact (removeListed_one_ok path v).mpr (.inr (Disk.remove_idle (allows path rfl _) (gone path rfl)))
  resumes := by
    intro w u v honest allows allows' start rest
    rw [removeListed_one_disk] at rest
    -- Either the file is gone and the next attempt finds none, or all is still as it was.
    rcases removeListed_cases path [] w with ⟨passed, -⟩ | ⟨cause, failed, -, -⟩
    · obtain ⟨open_, gone⟩ := Disk.remove_passed honest passed
      have done := Disk.remove_alike open_ (allows path rfl _) start
      have idle := Disk.remove_idle (allows' path rfl _) (gone.of_nodes rest)
      refine ⟨?_, ?_⟩
      · rw [(removeListed_one_ok path u).mpr (done.1 ▸ passed), (removeListed_one_ok path v).mpr (.inr idle)]
      · rw [removeListed_one_disk, removeListed_one_disk, ← done.2, Disk.remove_stopped idle, rest]
    · exact removeListed_one_alike (Disk.remove_alike (allows path rfl _) (allows' path rfl _)
        ((rest.trans (Disk.remove_stopped failed)).trans start.symm))

theorem removeListed_tidies (paths : List String) : Tidies (· ∈ paths) (removeListed paths) := by
  induction paths with
  | nil => exact .done fun _ _ => List.not_mem_nil
  | cons path rest ih =>
    rw [removeListed_cons]
    exact ((removeListed_one path).turns ih).of_iff fun _ => List.mem_cons.symm

/-- The files that a report lists. -/
def listed (report : Report) : List String :=
  match report.getOr "files" .strings [] with
  | .ok files => files
  | .error _ => []

theorem cleanup_tidies (reports : List Report) :
    Tidies (fun path => ∃ report ∈ reports, path ∈ listed report) (cleanup reports) := by
  induction reports with
  | nil => exact .done fun _ path => by simp
  | cons report rest ih =>
    rw [cleanup]
    cases decoded : report.getOr "files" .strings [] with
    | error e => exact .done fun passed => by cases passed
    | ok files =>
      refine ((removeListed_tidies files).turns ih).of_iff fun path => ?_
      simp [listed, decoded]

end LocalOutput

end BulkTransfer
