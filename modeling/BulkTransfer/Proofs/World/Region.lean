import BulkTransfer.Proofs.Disk.Operations
import BulkTransfer.World.Program
/-!
# Programs among others

A program that shares the disk with others has a region: places of its own, places that it reads,
and places that it may change. Between its steps others may do what they like as long as they spare
what is its own or read, and its own steps change nothing but what it may. What is ensured of it then
holds under every interleaving.

Programs one after the other, in one world, are done one after the other; what holds of every value that a
program can end with does so whatever the world does between its steps.
-/
namespace BulkTransfer

namespace Program

variable {Q R α β γ : Type}

@[simp]
theorem done_andThen (a : α) (f : α → Program Q R β) : (done a).andThen f = f a := rfl

theorem andThen_assoc (p : Program Q R α) (f : α → Program Q R β) (g : β → Program Q R γ) :
    (p.andThen f).andThen g = p.andThen fun a => (f a).andThen g := by
  induction p with
  | done a => rfl
  | step change next ih => simp only [andThen, ih]
  | ask q next ih => simp only [andThen, ih]

@[simp]
theorem run_done (a : α) (w : World) : (done a : Action α).run w = (a, w) := rfl

/-- Of two actions the second one goes on where the first has ended. -/
theorem run_andThen (p : Action α) (f : α → Action β) (w : World) :
    (p.andThen f).run w = (f (p.run w).1).run (p.run w).2 := by
  induction p generalizing w with
  | done a => rfl
  | step change next ih => exact ih w (change w)
  | ask q next _ => exact nomatch q

theorem run_bind (p : Action α) (f : α → Action β) (w : World) :
    (p >>= f).run w = (f (p.run w).1).run (p.run w).2 := run_andThen p f w

/-- Every value that the program can end with, in whatever worlds its steps are taken. -/
def Always (P : α → Prop) : Program Q R α → Prop
  | .done a => P a
  | .step _ next => ∀ w, (next w).Always P
  | .ask _ next => ∀ r, (next r).Always P

theorem Always.andThen {P : α → Prop} {S : β → Prop} {p : Program Q R α}
    {f : α → Program Q R β} (h : p.Always P) (hf : ∀ a, P a → (f a).Always S) :
    (p.andThen f).Always S := by
  induction p with
  | done a => exact hf a h
  | step change next ih => exact fun w => ih w (h w)
  | ask q next ih => exact fun r => ih r (h r)

theorem always_true (p : Program Q R α) : p.Always fun _ => True := by
  induction p with
  | done a => trivial
  | step change next ih => exact ih
  | ask q next ih => exact ih

theorem always_andThen {S : β → Prop} (p : Program Q R α) {f : α → Program Q R β}
    (hf : ∀ a, (f a).Always S) : (p.andThen f).Always S :=
  p.always_true.andThen fun a _ => hf a

end Program

/-- What the steps of a task leave as it is: whether a stop was asked for, and the size of pages. -/
structure World.KeepsTerms (w w' : World) : Prop where
  stop : w'.isCancelled = w.isCancelled
  pageSize : w'.pool.pageSize = w.pool.pageSize

structure Region where
  /-- Places that are left to the program. -/
  own : Location → Prop
  /-- Places that the program may change. -/
  reach : Location → Prop
  read : Location → Prop
  apart : ∀ l, reach l → ¬ read l
  pageSize : Nat

namespace Region

/-- What others may do. -/
def Spared (r : Region) : Disk → Disk → Prop := Disk.AgreesOn fun l => r.own l ∨ r.read l

/-- What the program itself may do. -/
def Keeps (r : Region) : Disk → Disk → Prop := Disk.AgreesOn fun l => ¬ r.reach l

/-- A property that others cannot make false. -/
def Stable (r : Region) (P : Disk → Prop) : Prop := ∀ d d', r.Spared d d' → P d → P d'

/-- A property that neither others nor the program itself can make false. -/
def Fixed (r : Region) (P : Disk → Prop) : Prop :=
  ∀ d d', Disk.AgreesOn r.read d d' → P d → P d'

variable {r : Region} {P S : Disk → Prop} {d d' : Disk}

theorem Spared.fixed (h : r.Spared d d') (fixed : r.Fixed P) (hp : P d) : P d' :=
  fixed d d' (h.mono fun _ hl => .inr hl) hp

theorem Keeps.fixed (h : r.Keeps d d') (fixed : r.Fixed P) (hp : P d) : P d' :=
  fixed d d' (h.mono fun l hl reach => r.apart l reach hl) hp

theorem Fixed.stable (fixed : r.Fixed P) : r.Stable P := fun _ _ h => h.fixed fixed

theorem Stable.and (hp : r.Stable P) (hs : r.Stable S) : r.Stable fun d => P d ∧ S d :=
  fun d d' h both => ⟨hp d d' h both.1, hs d d' h both.2⟩

end Region

namespace Program

variable {α β : Type} {r : Region} {post : α → Disk → Prop} {d d' : Disk}

/-- Whatever others do between its steps, sparing the region, the program keeps to the region, and
the postcondition holds when it is done. -/
def Ensures (r : Region) (post : α → Disk → Prop) : Action α → Disk → Prop
  | .done a, d => post a d
  | .step change next, d => ∀ w : World, r.Spared d w.disk → w.pool.pageSize = r.pageSize →
    r.Keeps w.disk (change w).disk ∧ w.KeepsTerms (change w) ∧
      Ensures r post (next w) (change w).disk
  | .ask q _, _ => nomatch q

namespace Ensures

theorem mono {p : Action α} {post' : α → Disk → Prop} (h : p.Ensures r post d)
    (weaker : ∀ a d, post a d → post' a d) : p.Ensures r post' d := by
  induction p generalizing d with
  | done a => exact weaker a d h
  | step change next ih =>
    intro w spared sized
    obtain ⟨keeps, terms, rest⟩ := h w spared sized
    exact ⟨keeps, terms, ih w rest⟩
  | ask q next _ => exact nomatch q

theorem andThen {p : Action α} {f : α → Action β} {Q : α → Disk → Prop} {post : β → Disk → Prop}
    (h : p.Ensures r Q d) (hf : ∀ a d, Q a d → (f a).Ensures r post d) :
    (p.andThen f).Ensures r post d := by
  induction p generalizing d with
  | done a => exact hf a d h
  | step change next ih =>
    intro w spared sized
    obtain ⟨keeps, terms, rest⟩ := h w spared sized
    exact ⟨keeps, terms, ih w rest⟩
  | ask q next _ => exact nomatch q

theorem spared {p : Action α} (h : p.Ensures r post d) (others : r.Spared d d')
    (stable : ∀ a, r.Stable (post a)) : p.Ensures r post d' := by
  cases p with
  | done a => exact stable a d d' others h
  | step change next => exact fun w spared sized => h w (others.trans spared) sized
  | ask q next => exact nomatch q

theorem keep {p : Action α} {P : Disk → Prop} (h : p.Ensures r post d) (fixed : r.Fixed P)
    (hp : P d) : p.Ensures r (fun a d => post a d ∧ P d) d := by
  induction p generalizing d with
  | done a => exact ⟨h, hp⟩
  | step change next ih =>
    intro w spared sized
    obtain ⟨keeps, terms, rest⟩ := h w spared sized
    exact ⟨keeps, terms, ih w rest (keeps.fixed fixed (spared.fixed fixed hp))⟩
  | ask q next _ => exact nomatch q

theorem onDisk {operation : Disk → α × Disk}
    (h : ∀ d', r.Spared d d' → r.Keeps d' (operation d').2 ∧ post (operation d').1 (operation d').2) :
    Ensures r post (Program.onDisk operation) d :=
  fun w spared _ => ⟨(h w.disk spared).1, ⟨rfl, rfl⟩, (h w.disk spared).2⟩

theorem quiet {change : World → World} {next : World → Action α}
    (same : ∀ w, (change w).disk = w.disk) (terms : ∀ w : World, w.KeepsTerms (change w))
    (h : ∀ w, r.Spared d w.disk → w.pool.pageSize = r.pageSize → (next w).Ensures r post w.disk) :
    Ensures r post (.step change next) d := by
  intro w spared sized
  rw [same]
  exact ⟨.refl _ _, terms w, h w spared sized⟩

end Ensures

end Program

end BulkTransfer
