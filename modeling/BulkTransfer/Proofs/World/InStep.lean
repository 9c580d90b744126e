import BulkTransfer.Proofs.Disk.Ways
import BulkTransfer.Proofs.World.Region
/-!
# Programs in step

Two programs are in step when they take the same steps in worlds that they cannot tell apart. A
program that is in step with itself ends among others just as it ends alone, since others leave what
it can tell as it is.
-/
namespace BulkTransfer

/-- A region of the disk that its program is launched on, which refuses whatever the time. -/
structure Site extends Region where
  launch : Disk
  steady : launch.IsSteady

/-- The later disk has the directories that were there at the launch, and refuses the same. -/
def Site.Launched (s : Site) : Disk → Prop := Disk.AgreesOn (fun _ => False) s.launch

theorem Site.Launched.agrees {s : Site} {d d' : Disk} {P : Location → Prop} (h : s.Launched d)
    (agrees : Disk.AgreesOn P d d') : s.Launched d' := h.trans (agrees.mono fun _ => False.elim)

/-- The program of the site cannot tell these worlds apart. -/
structure Site.Alike (s : Site) (w v : World) : Prop where
  launched : s.Launched w.disk
  disk : s.Spared w.disk v.disk
  sized : v.pool.pageSize = w.pool.pageSize

/-- Where the path leads is for the site to tell. -/
structure Site.Knows (s : Site) (path : String) : Prop where
  gates : ∀ m ∈ Disk.gates path, s.launch.node? m ≠ some .directory → s.own m ∨ s.read m
  place : s.own (Path.place path) ∨ s.read (Path.place path)

theorem Site.Knows.sameWay {s : Site} {path : String} {d d' : Disk} (h : s.Knows path)
    (launched : s.Launched d) (spared : s.Spared d d') :
    Disk.SameWay (fun l => s.own l ∨ s.read l) d d' path :=
  spared.sameWay (fun m hm other => h.gates m hm fun there => other ((launched.directory m).mpr there))
    h.place

namespace Program

variable {Q R α β γ δ : Type} {s : Site} {asks : Q → Q → Prop} {ends : α → β → Prop}

/-- In worlds that cannot be told apart both programs take steps that keep to the site and lead to such
worlds, or they ask alike, or they have ended alike. -/
def InStep (s : Site) (asks : Q → Q → Prop) (ends : α → β → Prop) :
    Program Q R α → Program Q R β → Prop
  | .done a, .done b => ends a b
  | .step change next, .step change' next' => ∀ w v : World, s.Alike w v →
      (s.Keeps w.disk (change w).disk ∧ w.KeepsTerms (change w)) ∧ s.Alike (change w) (change' v) ∧
        InStep s asks ends (next w) (next' v)
  | .ask q next, .ask q' next' => asks q q' ∧ ∀ r, InStep s asks ends (next r) (next' r)
  | _, _ => False

namespace InStep

theorem mono {p : Program Q R α} {p' : Program Q R β} {ends' : α → β → Prop}
    (h : InStep s asks ends p p') (weaker : ∀ a b, ends a b → ends' a b) :
    InStep s asks ends' p p' := by
  induction p generalizing p' with
  | done a =>
    cases p' with
    | done b => exact weaker a b h
    | step change' next' => exact h.elim
    | ask q' next' => exact h.elim
  | step change next ih =>
    cases p' with
    | done b => exact h.elim
    | step change' next' =>
      intro w v alike
      obtain ⟨keeps, after, rest⟩ := h w v alike
      exact ⟨keeps, after, ih w rest⟩
    | ask q' next' => exact h.elim
  | ask q next ih =>
    cases p' with
    | done b => exact h.elim
    | step change' next' => exact h.elim
    | ask q' next' => exact ⟨h.1, fun r => ih r (h.2 r)⟩

theorem andThen {p : Program Q R α} {p' : Program Q R β} {f : α → Program Q R γ}
    {f' : β → Program Q R δ} {last : γ → δ → Prop} (h : InStep s asks ends p p')
    (hf : ∀ a b, ends a b → InStep s asks last (f a) (f' b)) :
    InStep s asks last (p.andThen f) (p'.andThen f') := by
  induction p generalizing p' with
  | done a =>
    cases p' with
    | done b => exact hf a b h
    | step change' next' => exact h.elim
    | ask q' next' => exact h.elim
  | step change next ih =>
    cases p' with
    | done b => exact h.elim
    | step change' next' =>
      intro w v alike
      obtain ⟨keeps, after, rest⟩ := h w v alike
      exact ⟨keeps, after, ih w rest⟩
    | ask q' next' => exact h.elim
  | ask q next ih =>
    cases p' with
    | done b => exact h.elim
    | step change' next' => exact h.elim
    | ask q' next' => exact ⟨h.1, fun r => ih r (h.2 r)⟩

theorem ofAction {p : Action α} {p' : Action β} (h : InStep s Eq ends p p') :
    InStep s asks ends (Program.ofAction p : Program Q R α) (Program.ofAction p') := by
  induction p generalizing p' with
  | done a =>
    cases p' with
    | done b => exact h
    | step change' next' => exact h.elim
    | ask q' next' => exact h.elim
  | step change next ih =>
    cases p' with
    | done b => exact h.elim
    | step change' next' =>
      intro w v alike
      obtain ⟨keeps, after, rest⟩ := h w v alike
      exact ⟨keeps, after, ih w rest⟩
    | ask q' next' => exact h.elim
  | ask q next ih => exact nomatch q

/-- Steps beside the disk that keep its terms. -/
theorem quiet {change change' : World → World} {next : World → Program Q R α}
    {next' : World → Program Q R β}
    (same : ∀ w, (change w).disk = w.disk) (terms : ∀ w : World, w.KeepsTerms (change w))
    (same' : ∀ w, (change' w).disk = w.disk) (terms' : ∀ w : World, w.KeepsTerms (change' w))
    (h : ∀ w v, s.Alike w v → InStep s asks ends (next w) (next' v)) :
    InStep s asks ends (.step change next) (.step change' next') := by
  intro w v alike
  refine ⟨⟨?_, terms w⟩, ⟨?_, ?_, ?_⟩, h w v alike⟩
  · rw [same]
    exact .refl _ _
  · rw [same]
    exact alike.launched
  · rw [same, same']
    exact alike.disk
  · rw [(terms w).pageSize, (terms' v).pageSize]
    exact alike.sized

/-- Questions asked alike, answered by servers that are in step. -/
theorem answered {σ : Type} {server server' : Q → StateT σ Action R} {I : σ → Prop}
    (serves : ∀ q q', asks q q' → ∀ st, I st →
      InStep s Eq (fun x y => x = y ∧ I x.2) (server q st) (server' q' st))
    {p : Program Q R α} {p' : Program Q R β} (h : InStep s asks ends p p') {st : σ} (hi : I st) :
    InStep s Eq (fun x y => ends x.1 y.1 ∧ x.2 = y.2 ∧ I x.2) (p.answered server st)
      (p'.answered server' st) := by
  induction p generalizing p' st with
  | done a =>
    cases p' with
    | done b => exact ⟨h, rfl, hi⟩
    | step change' next' => exact h.elim
    | ask q' next' => exact h.elim
  | step change next ih =>
    cases p' with
    | done b => exact h.elim
    | step change' next' =>
      intro w v alike
      obtain ⟨keeps, after, rest⟩ := h w v alike
      exact ⟨keeps, after, ih w rest hi⟩
    | ask q' next' => exact h.elim
  | ask q next ih =>
    cases p' with
    | done b => exact h.elim
    | step change' next' => exact h.elim
    | ask q' next' =>
      refine andThen (serves q q' h.1 st hi) ?_
      rintro ⟨r, st⟩ _ ⟨rfl, hi⟩
      exact ih r (h.2 r) hi

/-- A program ends among others as one in step with it ends alone. -/
theorem ensures {p q : Action α} {ends : α → α → Prop} (h : InStep s Eq ends p q) {d : Disk}
    {v : World} (launched : s.Launched d) (spared : s.Spared d v.disk)
    (sized : v.pool.pageSize = s.pageSize) :
    p.Ensures s.toRegion (fun a d => ends a (q.run v).1 ∧ s.Spared d (q.run v).2.disk) d := by
  induction p generalizing q d v with
  | done a =>
    cases q with
    | done b => exact ⟨h, spared⟩
    | step change' next' => exact h.elim
    | ask q' next' => exact h.elim
  | step change next ih =>
    cases q with
    | done b => exact h.elim
    | step change' next' =>
      intro w others sized'
      have alike : s.Alike w v :=
        ⟨launched.agrees others, others.symm.trans spared, sized.trans sized'.symm⟩
      obtain ⟨⟨keeps, terms⟩, after, rest⟩ := h w v alike
      exact ⟨keeps, terms, ih w rest after.launched after.disk
        (after.sized.trans (terms.pageSize.trans sized'))⟩
    | ask q' next' => exact h.elim
  | ask q next _ => exact nomatch q

end InStep

section Repetition

variable {P : α → Prop} {S : β → Prop} {p : Action α}

/-- Where worlds cannot be told apart, the program takes the same steps and comes to the same end, of
which this holds. -/
def Repeats (s : Site) (P : α → Prop) (p : Action α) : Prop :=
  InStep s Eq (fun a b => a = b ∧ P a) p p

namespace Repeats

theorem done {a : α} (h : P a) : Repeats s P (.done a) := ⟨rfl, h⟩

theorem andThen {f : α → Action β} (h : p.Repeats s P) (hf : ∀ a, P a → (f a).Repeats s S) :
    (p.andThen f).Repeats s S := by
  refine InStep.andThen h ?_
  rintro a _ ⟨rfl, ha⟩
  exact hf a ha

theorem mono {P' : α → Prop} (h : p.Repeats s P) (weaker : ∀ a, P a → P' a) : p.Repeats s P' :=
  InStep.mono h fun a _ same => ⟨same.1, weaker a same.2⟩

theorem inStep (h : p.Repeats s P) : InStep s Eq Eq p p := InStep.mono h fun _ _ same => same.1

/-- An operation on the disk that keeps to the site, and does the same where it cannot tell. -/
theorem onDisk {operation : Disk → α × Disk}
    (h : ∀ d d', s.Launched d → s.Spared d d' → s.Keeps d (operation d).2 ∧
      Disk.Same (fun l => s.own l ∨ s.read l) (operation d) (operation d') ∧ P (operation d).1) :
    Repeats s P (Program.onDisk operation) := by
  intro w v alike
  obtain ⟨keeps, same, ended⟩ := h w.disk v.disk alike.launched alike.disk
  exact ⟨⟨keeps, rfl, rfl⟩, ⟨alike.launched.agrees keeps, same.2, alike.sized⟩, same.1, ended⟩

end Repeats

end Repetition

end Program

end BulkTransfer
