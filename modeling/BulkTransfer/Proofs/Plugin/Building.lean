import BulkTransfer.Plugin.Feed
import BulkTransfer.Proofs.Page.Likeness
import BulkTransfer.Proofs.Page.RoundTrip
import BulkTransfer.Proofs.World.InStep
/-!
# Builders in step

Programs over builders that differ at most in the buffers of their writers offer pages with the same
records, and come to the same.
-/
namespace BulkTransfer

section Results

variable {α β : Type}

/-- Both fail alike, or both succeed with values that are related. -/
def Attempt.Rel (rel : α → β → Prop) : Attempt α → Attempt β → Prop
  | .ok a, .ok b => rel a b
  | .error e, .error e' => e = e'
  | _, _ => False

theorem Attempt.rel_eq {x y : Attempt α} : Attempt.Rel Eq x y ↔ x = y := by
  cases x <;> cases y <;> simp [Attempt.Rel]

end Results

/-- The same records, in whatever buffers. -/
structure PageBuilder.Like (b b' : PageBuilder) : Prop where
  writer : b.writer.Like b'.writer
  counted : b.isCounted = b'.isCounted

namespace Building

variable {α β γ δ : Type} {s : Site} {rel : α → β → Prop} {m : Building α} {m' : Building β}
  {b b' : PageBuilder}

/-- From these builders the programs are in step, and come to related ends. -/
def InStep (s : Site) (rel : α → β → Prop) (m : Building α) (b : PageBuilder) (m' : Building β)
    (b' : PageBuilder) : Prop :=
  Program.InStep s Page.Like (fun x y => Attempt.Rel rel x.1 y.1 ∧ x.2.Like y.2) ((m.run).run b)
    ((m'.run).run b')

namespace InStep

theorem pure {a : α} {a' : β} (h : rel a a') (like : b.Like b') :
    InStep s rel (Pure.pure a) b (Pure.pure a') b' := ⟨h, like⟩

theorem bind {r : α → β → Prop} {f : α → Building γ} {f' : β → Building δ} {last : γ → δ → Prop}
    (h : InStep s r m b m' b')
    (hf : ∀ a a' b b', r a a' → b.Like b' → InStep s last (f a) b (f' a') b') :
    InStep s last (m >>= f) b (m' >>= f') b' := by
  change Program.InStep s _ _ (Program.andThen ((m.run).run b) fun x => _)
    (Program.andThen ((m'.run).run b') fun x => _)
  refine Program.InStep.andThen h ?_
  rintro ⟨x, b⟩ ⟨x', b'⟩ ⟨ended, like⟩
  cases x with
  | error e =>
    cases x' with
    | error e' => exact ⟨ended, like⟩
    | ok a' => exact ended.elim
  | ok a =>
    cases x' with
    | error e' => exact ended.elim
    | ok a' => exact hf a a' b b' ended like

theorem get_bind {f f' : PageBuilder → Building α} (h : InStep s Eq (f b) b (f' b') b') :
    InStep s Eq (get >>= f) b (get >>= f') b' := h

theorem set_bind {c c' : PageBuilder} {f f' : PUnit → Building α}
    (h : InStep s Eq (f ()) c (f' ()) c') :
    InStep s Eq (MonadStateOf.set c >>= f) b (MonadStateOf.set c' >>= f') b' := h

theorem ofAttempt {x : Attempt α} {x' : Attempt β} (h : Attempt.Rel rel x x') (like : b.Like b') :
    InStep s rel (Building.ofAttempt x) b (Building.ofAttempt x') b' := ⟨h, like⟩

theorem ofFeed {p : Feed α} {p' : Feed β} (h : Program.InStep s Page.Like rel p p')
    (like : b.Like b') : InStep s rel (Building.ofFeed p) b (Building.ofFeed p') b' := by
  change Program.InStep s _ _ ((p.andThen fun a => .done (a, b)).andThen fun x =>
      .done (Except.ok x.1, x.2))
    ((p'.andThen fun a => .done (a, b')).andThen fun x => .done (Except.ok x.1, x.2))
  rw [Program.andThen_assoc, Program.andThen_assoc]
  exact h.andThen fun a a' related => ⟨related, like⟩

theorem ofAction {p : Action (Attempt α)} (h : Program.InStep s Eq Eq p p) (like : b.Like b') :
    InStep s Eq (Building.ofAction p) b (Building.ofAction p) b' := by
  change Program.InStep s _ _ ((Program.ofAction p).andThen fun a => .done (a, b))
    ((Program.ofAction p).andThen fun a => .done (a, b'))
  refine Program.InStep.andThen (Program.InStep.ofAction h) ?_
  rintro x _ rfl
  exact ⟨Attempt.rel_eq.mpr rfl, like⟩

/-- Operations on the pools that keep the size of pages. -/
theorem onPool {operation : Pool → α × Pool} {operation' : Pool → β × Pool}
    (sizes : ∀ pool, (operation pool).2.pageSize = pool.pageSize)
    (sizes' : ∀ pool, (operation' pool).2.pageSize = pool.pageSize)
    (h : ∀ pool pool' : Pool, pool'.pageSize = pool.pageSize →
      rel (operation pool).1 (operation' pool').1) (like : b.Like b') :
    InStep s rel (Building.ofFeed (Program.onPool operation)) b
      (Building.ofFeed (Program.onPool operation')) b' :=
  ofFeed (Program.InStep.quiet (fun _ => rfl) (fun w => ⟨rfl, sizes w.pool⟩) (fun _ => rfl)
    (fun w => ⟨rfl, sizes' w.pool⟩) fun w v alike => h w.pool v.pool alike.sized) like

/-- Turns of a loop that are in step. -/
theorem forIn {xs : List γ} {body : γ → PUnit → Building (ForInStep PUnit)}
    (turn : ∀ x ∈ xs, ∀ b b', b.Like b' → InStep s Eq (body x ⟨⟩) b (body x ⟨⟩) b')
    (like : b.Like b') :
    InStep s Eq (ForIn.forIn xs PUnit.unit body) b (ForIn.forIn xs PUnit.unit body) b' := by
  induction xs generalizing b b' with
  | nil => exact pure rfl like
  | cons x rest ih =>
    rw [List.forIn_cons]
    refine bind (turn x List.mem_cons_self b b' like) ?_
    rintro next _ b b' rfl like
    cases next with
    | done _ => exact pure rfl like
    | yield _ => exact ih (fun y hy => turn y (List.mem_cons_of_mem _ hy)) like

end InStep

theorem emit_inStep {page page' : Page} (same : page.Like page') (like : b.Like b') :
    InStep s Eq (emit page) b (emit page') b' := by
  have rest : ∀ b b' : PageBuilder, b.Like b' → InStep s Eq (do
      let answer ← Building.ofFeed (.ask page .done)
      Building.ofFeed (Program.onPool fun pool => ((), pool.release page.buffer))
      Building.ofAttempt answer) b (do
      let answer ← Building.ofFeed (.ask page' .done)
      Building.ofFeed (Program.onPool fun pool => ((), pool.release page'.buffer))
      Building.ofAttempt answer) b' := by
    intro b b' like
    have asked : Program.InStep s Page.Like Eq (.ask page .done : Feed (Attempt Unit))
        (.ask page' .done) := ⟨same, fun r => rfl⟩
    refine InStep.bind (InStep.ofFeed asked like) ?_
    rintro answer _ b b' rfl like
    refine InStep.bind (r := Eq) (InStep.onPool (fun _ => rfl) (fun _ => rfl) (fun _ _ _ => rfl) like)
      ?_
    rintro _ _ b b' - like
    exact InStep.ofAttempt (Attempt.rel_eq.mpr rfl) like
  refine InStep.get_bind ?_
  rw [like.counted]
  by_cases counted : b'.isCounted
  · simp only [counted, if_true]
    refine InStep.bind (r := Eq) (InStep.ofFeed ?_ like) fun _ _ b b' _ like => rest b b' like
    exact Program.InStep.quiet (fun _ => rfl) (fun _ => ⟨rfl, rfl⟩) (fun _ => rfl)
      (fun _ => ⟨rfl, rfl⟩) fun _ _ _ => rfl
  · simp only [counted]
    exact rest b b' like

theorem set_inStep (column : Nat) (cell : Cell) (like : b.Like b') :
    InStep s Eq (set column cell) b (set column cell) b' := by
  refine InStep.get_bind ?_
  rcases like.writer.set column cell with ⟨e, refused, refused'⟩ | ⟨w, w', staged, staged', writer⟩
  · rw [refused, refused']
    exact ⟨rfl, like⟩
  · rw [staged, staged']
    exact ⟨rfl, writer, like.counted⟩

theorem addRecord_inStep (like : b.Like b') : InStep s Eq addRecord b addRecord b' := by
  refine InStep.get_bind (InStep.bind (r := fun x y =>
      ((∃ e, x.1 = .error e ∧ y.1 = .error e) ∨
        ∃ page? page?', x.1 = .ok page? ∧ y.1 = .ok page?' ∧ Option.Rel Page.Like page? page?') ∧
          x.2.Like y.2)
    (InStep.onPool b.writer.add_pageSize b'.writer.add_pageSize ?_ like) ?_)
  · exact fun pool pool' sized => like.writer.add sized
  · rintro ⟨added, writer⟩ ⟨added', writer'⟩ c c' ⟨parts, next⟩ -
    refine InStep.set_bind ?_
    have left : PageBuilder.Like { b with writer } { b' with writer := writer' } :=
      ⟨next, like.counted⟩
    rcases parts with ⟨e, failed, failed'⟩ | ⟨page?, page?', ok, ok', same⟩
    · obtain rfl : added = .error e := failed
      obtain rfl : added' = .error e := failed'
      exact ⟨rfl, left⟩
    · obtain rfl : added = .ok page? := ok
      obtain rfl : added' = .ok page?' := ok'
      cases same with
      | none => exact InStep.pure (rfl : () = ()) left
      | some same => exact emit_inStep same left

theorem flush_inStep (like : b.Like b') : InStep s Eq flush b flush b' := by
  refine InStep.get_bind (InStep.bind (r := fun x y => Option.Rel Page.Like x.1 y.1 ∧ x.2.Like y.2)
    (InStep.onPool b.writer.flush_pageSize b'.writer.flush_pageSize ?_ like) ?_)
  · exact fun pool pool' _ => like.writer.flush
  · rintro ⟨page?, writer⟩ ⟨page?', writer'⟩ c c' ⟨same, next⟩ -
    have left : PageBuilder.Like { b with writer } { b' with writer := writer' } :=
      ⟨next, like.counted⟩
    refine InStep.set_bind ?_
    cases same with
    | none => exact InStep.pure (rfl : () = ()) left
    | some same => exact emit_inStep same left

/-- A new builder is the same whoever makes it, and what it hands over is too. -/
theorem build_inStep {schema : Schema} {counted : Bool} {program : Building α}
    (h : ∀ b b', b.Like b' → InStep s Eq program b program b') :
    Program.InStep s Page.Like Eq (build schema counted program) (build schema counted program) := by
  refine Program.InStep.andThen (h _ _ ⟨.refl _, rfl⟩) ?_
  rintro ⟨result, b⟩ ⟨result', b'⟩ ⟨ended, like⟩
  obtain rfl : result = result' := Attempt.rel_eq.mp ended
  exact Program.InStep.andThen (flush_inStep like) fun _ _ _ => rfl

end Building

end BulkTransfer
