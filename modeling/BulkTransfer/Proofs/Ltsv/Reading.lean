import BulkTransfer.Ltsv.Parser
import BulkTransfer.Proofs.Plugin.FileCalls
import BulkTransfer.Proofs.Plugin.Gathering
/-!
# The parser leaves its input alone

Whatever the lines of the files are and whatever becomes of the pages, the parser does nothing but read
the files, use the pool and count. Who settles the file input is its runner.
-/
namespace BulkTransfer

open BuilderRun (Yields)

variable {α β : Type} {log : World → List InputCall}

/-- Neither buffers nor counters tell of a file input. -/
def IgnoresBooks (log : World → List InputCall) : Prop :=
  ∀ (w : World) pool metrics, log { w with pool, metrics } = log w

namespace Building

/-- A program over a builder that settles no file input. -/
structure Spares (m : Building α) (log : World → List InputCall) : Prop where
  keeps : ∀ {σ : Type} {c : PageChain σ}, c.Spares log →
    ∀ b s w, Yields c m b s w fun _ _ _ w' => log w' = log w

namespace Spares

variable {m : Building α} {f : α → Building β}

theorem pure (a : α) : Spares (Pure.pure a) log := ⟨fun _ _ _ _ => rfl⟩

theorem ofAttempt (x : Attempt α) : Spares (Building.ofAttempt x) log := ⟨fun _ _ _ _ => rfl⟩

theorem bind (h : m.Spares log) (hf : ∀ a, (f a).Spares log) : (m >>= f).Spares log := by
  refine ⟨fun hc b s w => ?_⟩
  refine Yields.bind (h.keeps hc b s w) (fun a b s w' same => ?_) fun _ _ _ _ same => same
  exact ((hf a).keeps hc b s w').mono fun _ _ _ _ same' => same'.trans same

theorem ofAction {p : Action (Attempt α)} (h : ∀ w, log (p.run w).2 = log w) :
    (Building.ofAction p).Spares log :=
  ⟨fun _ _ _ w => Yields.ofAction (h w)⟩

theorem forIn {γ : Type} {xs : List γ} {body : γ → PUnit → Building (ForInStep PUnit)}
    (h : ∀ x ∈ xs, (body x ⟨⟩).Spares log) : (ForIn.forIn xs PUnit.unit body).Spares log := by
  induction xs with
  | nil => exact pure _
  | cons x rest ih =>
    rw [List.forIn_cons]
    refine bind (h x List.mem_cons_self) fun next => ?_
    cases next with
    | done _ => exact pure _
    | yield _ => exact ih fun y hm => h y (List.mem_cons_of_mem x hm)

theorem set (column : Nat) (cell : Cell) : (Building.set column cell).Spares log := by
  refine ⟨fun _ b s w => ?_⟩
  unfold Yields
  rw [BuilderRun.of_stage]
  cases b.writer.set column cell <;> rfl

variable (books : IgnoresBooks log)

include books

theorem emitting (emitted : Option Page) : (BuilderRun.emitting emitted).Spares log := by
  refine ⟨fun hc b s w => ?_⟩
  cases emitted with
  | none => rfl
  | some page =>
    unfold Yields
    rw [BuilderRun.emitting, BuilderRun.of_emit]
    dsimp only
    refine (books _ _ _).trans ((hc page s _).trans ?_)
    cases b.isCounted with
    | true => exact books w w.pool _
    | false => rfl

theorem addRecord : Building.addRecord.Spares log := by
  refine ⟨fun hc b s w => ?_⟩
  unfold Yields
  rw [BuilderRun.of_addRecord]
  rcases b.writer.add w.pool with ⟨_ | emitted, writer, pool⟩
  · exact books w pool w.metrics
  · exact ((emitting books emitted).keeps hc _ _ _).trans (books w pool w.metrics)

theorem flush : Building.flush.Spares log := by
  refine ⟨fun hc b s w => ?_⟩
  unfold Yields
  rw [BuilderRun.of_flush]
  rcases b.writer.flush w.pool with ⟨emitted, writer, pool⟩
  exact ((emitting books emitted).keeps hc _ _ _).trans (books w pool w.metrics)

end Spares

theorem build_spares (books : IgnoresBooks log) {program : Building α} (h : program.Spares log)
    (schema : Schema) (isCounted : Bool) {σ : Type} {c : PageChain σ} (hc : c.Spares log) (s : σ)
    (w : World) : log ((c.receive (build schema isCounted program) s).run w).2 = log w :=
  Yields.built (R := fun _ _ w' => log w' = log w) (h.keeps hc _ s w) fun _ b s w' same =>
    ((Spares.flush books).keeps hc b s w').mono fun _ _ _ _ same' => same'.trans same

end Building

namespace Ltsv

open Building (Spares)

variable (books : IgnoresBooks log) (o : Options) (schema : Schema)

include books

theorem addLine_spares (line : String) : (addLine o schema line).Spares log := by
  unfold addLine
  refine .bind (.ofAttempt _) fun fields => .bind (.forIn fun c _ => ?_) fun _ => .addRecord books
  exact .bind (.ofAttempt _) fun cell => .bind (.set c.index cell) fun _ => .pure _

theorem addLines_spares (lines : List (Attempt String)) : (addLines o schema lines).Spares log := by
  unfold addLines
  refine .bind (.forIn fun told _ => .bind (.ofAttempt told) fun line => ?_) fun _ => .pure _
  by_cases blank : line.isEmpty
  · simp only [blank]
    exact .pure _
  · simp only [blank]
    exact .bind (addLine_spares books o schema line) fun _ => .pure _

theorem readFiles_spares {files : List (Action (Attempt (List Poll)))}
    (quiet : ∀ opening ∈ files, ∀ w, log (opening.run w).2 = log w) :
    (readFiles o schema files).Spares log := by
  unfold readFiles
  refine .bind (.forIn fun opening hm => .bind (.ofAction (quiet opening hm)) fun polls => ?_)
    fun _ => .pure _
  exact .bind (addLines_spares books o schema _) fun _ => .bind (.flush books) fun _ => .pure _

omit o schema

theorem parser_onlyReads : parser.OnlyReads log := by
  intro task schema input records σ c hc s w
  change log ((c.receive (run task schema input) s).run w).2 = _
  unfold run
  cases Attempt.ofConfig (task.loadTask Options.decode) with
  | error e => rfl
  | ok o => exact Building.build_spares books (readFiles_spares books o schema records.files) schema true hc s w

end Ltsv

end BulkTransfer
