import BulkTransfer.Plugin.Transaction
import BulkTransfer.Proofs.Disk.Place
import BulkTransfer.Proofs.World.Region
/-!
# How transactions open

A transaction that does all its work before it calls its control: it makes directories at most, then
it gives up or asks for something, and afterwards it only turns the answer into its result. Nesting
such transactions gives one of the same kind.
-/
namespace BulkTransfer

namespace Attempt

variable {ε α β : Type} {x : Except ε α} {f : α → Except ε β} {a : α} {b : β}

/-- Two steps succeed only if both of them do. -/
theorem of_bind (h : x >>= f = .ok b) : ∃ a, x = .ok a ∧ f a = .ok b := by
  cases x with
  | error e => cases h
  | ok a => exact ⟨a, rfl, h⟩

theorem bind_ok (h : x = .ok a) (hf : f a = .ok b) : x >>= f = .ok b := h ▸ hf

theorem of_mapError {ε' : Type} {g : ε → ε'} (h : x.mapError g = .ok a) : x = .ok a := by
  cases x with
  | error e => cases h
  | ok a' =>
    cases h
    rfl

end Attempt

namespace Transaction

variable {Q R Q' R' α : Type} {d : Disk} {P : Q → (R → Attempt α) → Prop}

/-- On this disk the transaction gives up, or it calls its control with a request; a failure of the
control is passed through. It looks at nothing else of the world. -/
def Opens (t : Transaction Q R α) (d : Disk) (P : Q → (R → Attempt α) → Prop) : Prop :=
  ∃ event after, d.GrowsTo after ∧
    (∀ w : World, w.disk = d → t.run w = (event, { w with disk := after })) ∧
      ((∃ e, event = .finished (.error e)) ∨
        ∃ q f resume, event = .called q resume ∧ P q f ∧ ∀ r, resume r = .done (r.bind f))

/-- What the transaction asks for on this disk, and how it leaves the disk before it does. -/
def opened (t : Transaction Q R α) (d : Disk) : Option (Q × Disk) :=
  match t.run (.ofDisk d) with
  | (.called q _, w) => some (q, w.disk)
  | (.finished _, _) => none

theorem called_of_opened {t : Transaction Q R α} {check : Disk → Bool}
    (h : (t.opened d).any (fun x => check x.2) = true) :
    ∃ q resume w', t.run (.ofDisk d) = (.called q resume, w') ∧ check w'.disk = true := by
  unfold opened at h
  split at h
  · rename_i q resume w' called
    exact ⟨q, resume, w', called, h⟩
  · cases h

namespace Opens

theorem failed (e : PluginError) : (finish (.error e) : Transaction Q R α).Opens d P :=
  ⟨_, d, .refl _, fun _ same => same ▸ rfl, .inl ⟨e, rfl⟩⟩

theorem called {q : Q} {f : R → Attempt α} {resume : Attempt R → Action (Attempt α)} (h : P q f)
    (answers : ∀ r, resume r = .done (r.bind f)) : (call q resume).Opens d P :=
  ⟨_, d, .refl _, fun _ same => same ▸ rfl, .inr ⟨q, f, resume, rfl, h, answers⟩⟩

theorem mono {t : Transaction Q R α} {S : Q → (R → Attempt α) → Prop} (h : t.Opens d P)
    (weaker : ∀ q f, P q f → S q f) : t.Opens d S := by
  obtain ⟨event, after, grows, ran, ends⟩ := h
  refine ⟨event, after, grows, ran, ?_⟩
  rcases ends with failed | ⟨q, f, resume, called, hp, answers⟩
  · exact .inl failed
  · exact .inr ⟨q, f, resume, called, weaker q f hp, answers⟩

/-- An operation on the disk before everything else. -/
theorem onDisk {β : Type} {operation : Disk → β × Disk} {t : β → Transaction Q R α}
    (grows : d.GrowsTo (operation d).2) (h : (t (operation d).1).Opens (operation d).2 P) :
    Opens ((Program.onDisk operation).andThen t) d P := by
  obtain ⟨event, after, more, ran, ends⟩ := h
  refine ⟨event, after, grows.trans more, ?_, ends⟩
  rintro w rfl
  exact ran { w with disk := (operation w.disk).2 } rfl

theorem nest {outer : Transaction Q R α} {inner : Q → Transaction Q' R' R}
    {S : Q → Q' → (R' → Attempt R) → Prop} (h : outer.Opens d P)
    (hi : ∀ q f d', P q f → d.GrowsTo d' → (inner q).Opens d' (S q)) :
    (outer.nest inner).Opens d fun q' g =>
      ∃ q f f', P q f ∧ S q q' f' ∧ g = fun a => (f' a).bind f := by
  obtain ⟨event, middle, grows, ran, ends⟩ := h
  rcases ends with ⟨e, rfl⟩ | ⟨q, f, resume, rfl, hp, answers⟩
  · refine ⟨.finished (.error e), middle, grows, fun w same => ?_, .inl ⟨e, rfl⟩⟩
    rw [Transaction.nest, Program.run_andThen, ran w same]
    rfl
  · obtain ⟨event, after, more, ran', ends⟩ := hi q f middle hp grows
    rcases ends with ⟨e, rfl⟩ | ⟨q', f', resume', rfl, hs, answers'⟩
    · refine ⟨.finished (.error e), after, grows.trans more, fun w same => ?_, .inl ⟨e, rfl⟩⟩
      rw [Transaction.nest, Program.run_andThen, ran w same]
      dsimp only
      rw [Program.run_andThen, ran' _ rfl]
      dsimp only
      rw [answers]
      rfl
    · refine ⟨_, after, grows.trans more, fun w same => ?_,
        .inr ⟨q', _, fun r' => do resume (← resume' r'), rfl, ⟨q, f, f', hp, hs, rfl⟩, fun r => ?_⟩⟩
      · rw [Transaction.nest, Program.run_andThen, ran w same]
        dsimp only
        rw [Program.run_andThen, ran' _ rfl]
        rfl
      · change (resume' r).andThen resume = _
        rw [answers']
        change resume (r.bind f') = _
        rw [answers]
        cases r <;> rfl

/-- A chain of stages hands its answer on as it is. -/
theorem collecting {t : Transaction Q Unit Unit} {P : Q → (Unit → Attempt Unit) → Prop}
    {notRun : PluginError} (h : t.Opens d P) :
    (t.collecting notRun : Transaction Q R R).Opens d fun q g =>
      ∃ f, P q f ∧ g = fun r => (f ()).map fun _ => r := by
  obtain ⟨event, after, grows, ran, ends⟩ := h
  rcases ends with ⟨e, rfl⟩ | ⟨q, f, resume, rfl, hp, answers⟩
  · refine ⟨.finished (.error e), after, grows, fun w same => ?_, .inl ⟨e, rfl⟩⟩
    rw [Transaction.collecting, Program.run_andThen, ran w same]
    rfl
  · refine ⟨_, after, grows, fun w same => ?_, .inr ⟨q, fun r => (f ()).map fun _ => r,
      fun answer => do return settle notRun (← resume (answer.map fun _ => ())) answer, rfl,
      ⟨f, hp, rfl⟩, fun r => ?_⟩⟩
    · rw [Transaction.collecting, Program.run_andThen, ran w same]
      rfl
    · change (resume (r.map fun _ => ())).andThen _ = _
      rw [answers]
      cases r with
      | error e => rfl
      | ok a =>
        change Program.done (settle notRun (f ()) (.ok a)) = _
        change _ = Program.done ((f ()).map fun _ => a)
        cases f () <;> rfl

end Opens

section Runs

variable {w w' : World}

/-- Nested transactions go on from what the outer one has come to. -/
theorem nest_run {outer outer' : Transaction Q R α} {inner : Q → Transaction Q' R' R}
    (h : outer.run w = outer'.run w') : (outer.nest inner).run w = (outer'.nest inner).run w' := by
  unfold nest
  rw [Program.run_andThen, Program.run_andThen, h]

theorem drive_run {σ : Type} {t t' : Transaction Q R α}
    {control : Q → StateT σ Action (Attempt R)} {s : σ} (h : t.run w = t'.run w') :
    (t.drive control s).run w = (t'.drive control s).run w' := by
  change (Program.andThen (Program.andThen t fun a => .done (a, s)) _).run w =
    (Program.andThen (Program.andThen t' fun a => .done (a, s)) _).run w'
  rw [Program.run_andThen, Program.run_andThen, Program.run_andThen, Program.run_andThen, h]

end Runs

end Transaction

end BulkTransfer
