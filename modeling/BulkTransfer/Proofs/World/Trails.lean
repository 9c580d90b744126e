import BulkTransfer.Proofs.World.Region
import Mathlib.Logic.Relation
/-!
# Trails

What an action can end with when others change the world between its steps, and the trails that a
machine leaves when it is called again and again. A machine in front of another one is told by what it
makes of the trails on itself; with several in a row, what the first one makes of them is the second
one's to go on with.
-/
namespace BulkTransfer

namespace Program

variable {α β : Type}

/-- The action can end with this value, in some worlds for its steps. -/
def CanEnd : Action α → α → Prop
  | .done a, b => a = b
  | .step _ next, b => ∃ w, (next w).CanEnd b
  | .ask q _, _ => nomatch q

theorem canEnd_andThen {p : Action α} {f : α → Action β} {b : β} :
    (p.andThen f).CanEnd b ↔ ∃ a, p.CanEnd a ∧ (f a).CanEnd b := by
  induction p with
  | done a => simp [andThen, CanEnd]
  | step change next ih =>
    simp only [andThen, CanEnd, ih]
    constructor
    · rintro ⟨w, a, first, second⟩
      exact ⟨a, ⟨w, first⟩, second⟩
    · rintro ⟨a, ⟨w, first⟩, second⟩
      exact ⟨w, a, first, second⟩
  | ask q next _ => cases q

/-- The program can end with this value after these questions, each with its answer. -/
def Talks {Q R : Type} : Program Q R α → List (Q × R) → α → Prop
  | .done a, talk, b => talk = [] ∧ a = b
  | .step _ next, talk, b => ∃ w, (next w).Talks talk b
  | .ask q next, talk, b => ∃ r rest, talk = (q, r) :: rest ∧ (next r).Talks rest b

end Program

section Trails

variable {σ τ ι κ : Type}

/-- A machine is called with these calls in turn, and goes from one state to another. -/
inductive Trail (step : σ → ι → σ → Prop) : σ → List ι → σ → Prop
  | nil (s : σ) : Trail step s [] s
  | cons {s s' s'' : σ} {call : ι} {calls : List ι} (first : step s call s')
      (rest : Trail step s' calls s'') : Trail step s (call :: calls) s''

namespace Trail

variable {step : σ → ι → σ → Prop} {s s' s'' : σ} {call : ι} {calls calls' : List ι}

theorem single (h : step s call s') : Trail step s [call] s' := .cons h (.nil s')

theorem append (h : Trail step s calls s') (h' : Trail step s' calls' s'') :
    Trail step s (calls ++ calls') s'' := by
  induction h with
  | nil s => exact h'
  | cons first _ ih => exact .cons first (ih h')

/-- The same calls on a part of a machine. -/
theorem part {r : τ → ι → τ → Prop} (view : σ → τ)
    (seen : ∀ s call s', step s call s' → r (view s) call (view s')) (h : Trail step s calls s') :
    Trail r (view s) calls (view s') := by
  induction h with
  | nil s => exact .nil _
  | cons first _ ih => exact .cons (seen _ _ _ first) ih

/-- The same calls by other names. -/
theorem renamed {r : σ → κ → σ → Prop} (name : ι → κ)
    (same : ∀ s call s', step s call s' → r s (name call) s') (h : Trail step s calls s') :
    Trail r s (calls.map name) s' := by
  induction h with
  | nil s => exact .nil s
  | cons first _ ih => exact .cons (same _ _ _ first) ih

/-- Of each call a machine makes some calls on another one, whose state is a part of its own. -/
theorem expands {r : τ → κ → τ → Prop} (view : σ → τ) (makes : σ → ι → List κ → σ → Prop)
    (each : ∀ s call s', step s call s' →
      ∃ group, Trail r (view s) group (view s') ∧ makes s call group s')
    (h : Trail step s calls s') : ∃ made : List (ι × List κ), made.map Prod.fst = calls ∧
      Trail r (view s) (made.flatMap Prod.snd) (view s') ∧
        Trail (fun s x s' => makes s x.1 x.2 s') s made s' := by
  induction h with
  | nil s => exact ⟨[], rfl, .nil _, .nil s⟩
  | @cons s s' s'' call calls first _ ih =>
    obtain ⟨group, under, here⟩ := each _ _ _ first
    obtain ⟨made, same, below, rest⟩ := ih
    exact ⟨(call, group) :: made, congrArg _ same, under.append below, .cons here rest⟩

/-- What holds of each step alone holds of each call. -/
theorem all {P : ι → Prop} (h : Trail (fun _ call _ => P call) s calls s') : ∀ call ∈ calls, P call := by
  induction h with
  | nil s => simp
  | cons first _ ih => exact List.forall_mem_cons.mpr ⟨first, ih⟩

end Trail

/-- What a program that is answered by a machine can end with: it has talked to it. -/
theorem Program.canEnd_answered {Q R α : Type} {server : Q → StateT σ Action R} {p : Program Q R α}
    {s s' : σ} {a : α} : (p.answered server s).CanEnd (a, s') ↔
      ∃ talk, p.Talks talk a ∧ Trail (fun s x s' => (server x.1 s).CanEnd (x.2, s')) s talk s' := by
  induction p generalizing s with
  | done b =>
    constructor
    · rintro ⟨⟩
      exact ⟨[], ⟨rfl, rfl⟩, .nil _⟩
    · rintro ⟨_, ⟨rfl, rfl⟩, ⟨⟩⟩
      rfl
  | step change next ih =>
    simp only [answered, CanEnd, Talks, ih]
    constructor
    · rintro ⟨w, talk, talks, trail⟩
      exact ⟨talk, ⟨w, talks⟩, trail⟩
    · rintro ⟨talk, ⟨w, talks⟩, trail⟩
      exact ⟨w, talk, talks, trail⟩
  | ask q next ih =>
    simp only [answered, canEnd_andThen, Talks]
    constructor
    · rintro ⟨⟨r, s₁⟩, first, rest⟩
      obtain ⟨talk, talks, trail⟩ := (ih r).mp rest
      exact ⟨(q, r) :: talk, ⟨r, talk, rfl, talks⟩, .cons first trail⟩
    · rintro ⟨_, ⟨r, talk, rfl, talks⟩, trail⟩
      cases trail with
      | cons first rest => exact ⟨(r, _), first, (ih r).mpr ⟨talk, talks, rest⟩⟩

end Trails

section Composition

universe u v w

variable {α : Type u} {Ts : List (α → α → Prop)} {a b : α}

/-- Through a list of things that may be made of something: through the first one, then through the
others. -/
def Through : List (α → α → Prop) → α → α → Prop
  | [] => Eq
  | T :: rest => Relation.Comp T (Through rest)

theorem through_cons {T : α → α → Prop} : Through (T :: Ts) a b ↔ ∃ m, T a m ∧ Through Ts m b := Iff.rfl

/-- Of something with this content it makes only something with that one. -/
def Simulates {β : Type v} (holds : α → β → Prop) (f : β → β) (T : α → α → Prop) : Prop :=
  ∀ a a' b, T a a' → holds a b → holds a' (f b)

theorem Simulates.through {ι : Type w} {β : Type v} {holds : α → β → Prop} {F : ι → β → β}
    {T : ι → α → α → Prop} {xs : List ι} (each : ∀ x ∈ xs, Simulates holds (F x) (T x)) :
    Simulates holds (fun b => xs.foldl (fun b x => F x b) b) (Through (xs.map T)) := by
  induction xs with
  | nil =>
    rintro a _ b rfl holds
    exact holds
  | cons x xs ih =>
    rintro a a' b ⟨m, first, rest⟩ holds
    exact ih (fun y mem => each y (List.mem_cons_of_mem x mem)) m a' _ rest
      (each x List.mem_cons_self a m b first holds)

end Composition

end BulkTransfer
