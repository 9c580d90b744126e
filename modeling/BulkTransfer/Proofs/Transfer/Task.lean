import BulkTransfer.Proofs.Ltsv.Rows
import BulkTransfer.Transfer.TaskPlan
/-!
# One task

A task reads a file into a sink that keeps its contract, through filters that let everything pass.
Either it commits exactly the rows of the file, or it reports no output and leaves nothing behind.
-/
namespace BulkTransfer

variable {σ τ α : Type}

namespace FilterStage

/-- A call behind a stage that keeps its own state. -/
def Passes (call : Call (τ × σ) α) (inner : Call σ α) : Prop :=
  ∀ x s, call.attempt (x, s) = (inner.attempt s).andThen fun y => .done (y.1, (x, y.2))

def IsTransparent (stage : FilterStage) : Prop :=
  ∀ {σ : Type} (c : PageChain σ), (∀ page, Passes ((stage.wrap c).add page) (c.add page)) ∧
    Passes (stage.wrap c).finish c.finish ∧
    ∀ x s, (stage.wrap c).close (x, s) = (c.close s).andThen fun y => .done (y.1, (x, y.2))

theorem passing_transparent : passing.IsTransparent := by
  intro σ c
  exact ⟨fun page x s => rfl, fun x s => rfl, fun x s => rfl⟩

theorem Passes.regrouped {β : Type} {call : Call (α × τ × σ) β} {middle : Call (τ × σ) β}
    {inner : Call σ β} (outer : Passes call middle) (h : Passes middle inner) :
    Passes (call.zoom (fun t : (α × τ) × σ => (t.1.1, t.1.2, t.2))
      fun s _ => ((s.1, s.2.1), s.2.2)) inner := by
  rintro ⟨a, b⟩ s
  change ((call.attempt (a, (b, s))).andThen fun y => .done (y.1, ((y.2.1, y.2.2.1), y.2.2.2))) = _
  rw [outer a (b, s), h b s, Program.andThen_assoc, Program.andThen_assoc]
  rfl

theorem IsTransparent.followedBy {first second : FilterStage} (h : first.IsTransparent)
    (h' : second.IsTransparent) : (first.followedBy second).IsTransparent := by
  intro σ c
  obtain ⟨add, finish, close⟩ := h (second.wrap c)
  obtain ⟨add', finish', close'⟩ := h' c
  refine ⟨fun page => (add page).regrouped (add' page), finish.regrouped finish', ?_⟩
  rintro ⟨a, b⟩ s
  change (((first.wrap (second.wrap c)).close (a, (b, s))).andThen fun y =>
    .done (y.1, ((y.2.1, y.2.2.1), y.2.2.2))) = _
  rw [close a (b, s), close' b s, Program.andThen_assoc, Program.andThen_assoc]
  rfl

end FilterStage

theorem Program.answered_behind {Q R : Type} {outer : Q → StateT (τ × σ) Action R}
    {server : Q → StateT σ Action R}
    (h : ∀ q x s, outer q (x, s) = (server q s).andThen fun y => .done (y.1, (x, y.2)))
    (p : Program Q R α) (x : τ) (s : σ) :
    p.answered outer (x, s) = (p.answered server s).andThen fun y => .done (y.1, (x, y.2)) := by
  induction p generalizing s with
  | done a => rfl
  | step change next ih => simp only [answered, andThen, ih]
  | ask q next ih =>
    simp only [answered, h, andThen_assoc, done_andThen]
    congr 1
    funext y
    exact ih y.1 y.2

namespace Ltsv

/-- What a task reads: the rows of a file, and a report that says nothing. -/
def feed (o : Options) (s : Schema) (cut : LocalInput.Cutting) (path : String) :
    Feed (Except RunFault Report) :=
  (Building.build s true (readFiles o s [cut.openFile path])).andThen fun
    | .ok () => .done (.ok Document.empty)
    | .error e => .done (.error (.failed e))

end Ltsv

namespace TaskPlan

open Ltsv (Told Blocked told_fixed blocked_fixed)

variable {p : TaskPlan} {index : Nat} {sink : PageSink σ} {r : Region} {s : Schema} {d : Disk}
  {o : Ltsv.Options} {cut : LocalInput.Cutting} {path : String}

def committed (index : Nat) (report : Report) : TaskOutcome :=
  ⟨index, some Document.empty, some report, none⟩

/-- A task either commits the rows of its file, or has no output for a reason. -/
def Settles (k : SinkContract r s sink) (o : Ltsv.Options) (path : String) (index : Nat)
    (outcome : TaskOutcome) (d : Disk) : Prop :=
  (∃ rows report, outcome = committed index report ∧ k.committed rows report d ∧
    Told r o s path rows d) ∨
      outcome.index = index ∧ outcome.outputReport = none ∧ k.gone d ∧ Blocked k o path d

variable {k : SinkContract r s sink}

/-- Where something is in the way of the sink, it has trouble with everything. -/
theorem blocked_of_disabled (h : ¬ k.able d) : Blocked k o path d :=
  fun _ _ _ _ _ _ able => absurd able h

/-- An aborted sink leaves nothing, whatever the outcome that is told. -/
theorem abort_settles {st : σ} (h : k.isOpen st d) (blocked : Blocked k o path d)
    {outcome : TaskOutcome} (same : outcome.index = index) (none : outcome.outputReport = none) :
    (((do
      sink.abort
      sink.close
      return outcome) : SureCall σ TaskOutcome) st).Ensures r
        (fun x => Settles k o path index x.1) d := by
  have stable := k.gone_stable.and (blocked_fixed (k := k) (o := o) path).stable
  refine Program.Ensures.andThen ((k.abort h).keep (blocked_fixed path) blocked) fun x d gone => ?_
  refine Program.Ensures.andThen (k.close x.2 _ d stable gone) fun y d gone => ?_
  exact .inr ⟨same, none, gone⟩

theorem settle_settles {rows : List (List Cell)} {st : σ} (finished : k.finished rows st d)
    (told : Told r o s path rows d) :
    (settle sink index Document.empty st).Ensures r (fun x => Settles k o path index x.1) d := by
  refine Program.Ensures.andThen ((k.commit finished).keep (told_fixed path rows) told) ?_
  rintro ⟨answer, st⟩ d ⟨ended, told⟩
  cases answer with
  | error e => exact abort_settles ended.1 (blocked_of_disabled ended.2) rfl rfl
  | ok report =>
    have stable := (k.committed_stable rows report).and (told_fixed (o := o) (s := s) path rows).stable
    refine Program.Ensures.andThen (k.close st _ d stable ⟨ended, told⟩) fun y d kept => ?_
    exact .inl ⟨rows, report, rfl, kept⟩

/-- How the reading of a file into a sink ends. -/
def Reads (k : SinkContract r s sink) (o : Ltsv.Options) (path : String)
    (has : List (List Cell) → σ → Disk → Prop) : Except RunFault Report → σ → Disk → Prop
  | .ok report, st, d => report = Document.empty ∧ ∃ rows, has rows st d ∧ Told r o s path rows d
  | .error (.failed _), st, d => k.isOpen st d ∧ Blocked k o path d
  | .error (.panicked _), _, _ => False

/-- How the sink ends when it is finished with what has been read. -/
def Finishes (k : SinkContract r s sink) (o : Ltsv.Options) (path : String)
    (rows : List (List Cell)) : Attempt Unit × σ → Disk → Prop :=
  Ends (fun _ st d => k.finished rows st d ∧ Told r o s path rows d)
    fun st d => k.isOpen st d ∧ Blocked k o path d

theorem feed_ensures (cut : LocalInput.Cutting) {st : σ} (taken : k.taken [] st d) :
    ((Ltsv.feed o s cut path).answered (fun page => (sink.add page).attempt) st).Ensures r
      (fun x => Reads k o path k.taken x.1 x.2) d := by
  rw [Ltsv.feed, Program.answered_andThen]
  have holds : k.Holds [] s.nullRow ⟨.ofSchema s, true⟩ st d :=
    ⟨[], [], rfl, taken, PageWriter.ofSchema_shows s⟩
  refine Program.Ensures.andThen (SinkContract.build_ensures (told_fixed path)
    (blocked_fixed (k := k) (o := o) path) (Ltsv.readFiles_builds cut path holds)) ?_
  rintro ⟨answer, st⟩ d ended
  cases answer with
  | error e => exact ended
  | ok _ => exact ⟨rfl, ended⟩

theorem feedChain_ensures {stage : FilterStage} (transparent : stage.IsTransparent)
    (fed : p.input.run p.inputTask p.inputSchema index = Ltsv.feed o s cut path) (x : stage.State)
    {st : σ} (taken : k.taken [] st d) :
    (p.feedChain index (stage.wrap sink.asChain) (x, st)).Ensures r
      (fun y => Reads k o path k.finished y.1 y.2.2) d := by
  obtain ⟨add, finish, close⟩ := transparent sink.asChain
  have received : ((stage.wrap sink.asChain).receive (Ltsv.feed o s cut path) (x, st)).Ensures r
      (fun y d => y.2.1 = x ∧ Reads k o path k.taken y.1 y.2.2 d) d := by
    rw [PageChain.receive, Program.answered_behind (fun page x st => add page x st)]
    refine Program.Ensures.andThen (feed_ensures cut taken) ?_
    exact fun y d h => ⟨rfl, h⟩
  unfold feedChain
  rw [fed]
  refine Program.Ensures.andThen received ?_
  rintro ⟨answer, x', st⟩ d ⟨rfl, h⟩
  match answer, h with
  | .error (.failed e), h =>
    refine Program.Ensures.andThen (Q := fun y d => k.isOpen y.2.2 d ∧ Blocked k o path d) ?_ ?_
    · rw [close]
      exact h
    · exact fun y d h => h
  | .ok report, h =>
    obtain ⟨rfl, rows, taken, told⟩ := h
    refine Program.Ensures.andThen
      (Q := fun y d => y.2.1 = x' ∧ Finishes k o path rows (y.1, y.2.2) d) ?_ ?_
    · rw [finish]
      refine Program.Ensures.andThen ((k.finish taken).keep (told_fixed path rows) told) ?_
      rintro ⟨result, st⟩ d ⟨ended, told⟩
      cases result with
      | error e => exact ⟨rfl, ended.1, blocked_of_disabled ended.2⟩
      | ok _ => exact ⟨rfl, ended, told⟩
    · rintro ⟨result, x, st⟩ d ⟨rfl, ended⟩
      refine Program.Ensures.andThen
        (Q := fun y d => y.2.2 = st ∧ Finishes k o path rows (result, st) d) ?_ ?_
      · rw [close]
        exact ⟨rfl, ended⟩
      · rintro ⟨_, x, st'⟩ d ⟨rfl, ended⟩
        cases result with
        | error e => exact ended
        | ok _ => exact ⟨rfl, rows, ended⟩

/-- The rows are read into the sink, behind filters that let everything pass. -/
theorem readInput_ensures {stage : FilterStage} (opened : openFilters p.filters = .ok stage)
    (transparent : stage.IsTransparent)
    (fed : p.input.run p.inputTask p.inputSchema index = Ltsv.feed o s cut path) {st : σ}
    (taken : k.taken [] st d) :
    (p.readInput index sink st).Ensures r (fun x => Reads k o path k.finished x.1 x.2) d := by
  unfold readInput
  rw [opened]
  refine Program.Ensures.andThen (feedChain_ensures transparent fed stage.initial taken) ?_
  exact fun y d h => h

/-- Whatever others do meanwhile, a task commits the rows of its file or has no output. -/
theorem performIn_ensures {stage : FilterStage} (opened : openFilters p.filters = .ok stage)
    (transparent : stage.IsTransparent)
    (fed : p.input.run p.inputTask p.inputSchema index = Ltsv.feed o s cut path)
    (before : k.before d) :
    (p.performIn index sink k.initial).Ensures r (fun x => Settles k o path index x.1) d := by
  unfold performIn
  refine Program.Ensures.andThen (k.start before) ?_
  rintro ⟨answer, st⟩ d ended
  cases answer with
  | error e => exact .inr ⟨rfl, rfl, ended.1, blocked_of_disabled ended.2⟩
  | ok _ =>
    refine Program.Ensures.andThen (readInput_ensures opened transparent fed ended) ?_
    rintro ⟨answer, st⟩ d h
    match answer, h with
    | .error (.failed e), h => exact abort_settles h.1 h.2 rfl rfl
    | .ok report, h =>
      obtain ⟨rfl, rows, finished, told⟩ := h
      exact settle_settles finished told

theorem perform_ensures {stage : FilterStage} (opened : openFilters p.filters = .ok stage)
    (transparent : stage.IsTransparent)
    (fed : p.input.run p.inputTask p.inputSchema index = Ltsv.feed o s cut path)
    (opens : p.output.openTask p.outputTask p.outputSchema index = .ok ⟨σ, sink, k.initial⟩)
    (before : k.before d) : (p.perform index).Ensures r (Settles k o path index) d := by
  unfold perform
  rw [opens]
  refine Program.Ensures.andThen (performIn_ensures opened transparent fed before) ?_
  exact fun x d h => h

end TaskPlan

end BulkTransfer
