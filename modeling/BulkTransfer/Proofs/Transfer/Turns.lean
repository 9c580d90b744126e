import BulkTransfer.Proofs.Transfer.Journey
import BulkTransfer.Proofs.Transfer.Silence
import BulkTransfer.Proofs.Transfer.Storing
import BulkTransfer.Proofs.Tree.Equality
import BulkTransfer.Rehearsal.Plugins
import Mathlib.Data.List.Chain
/-!
# Runs and cleanups by turns

Runs and cleanups that share a store move it between two states: it is empty, or it holds what is left of
a transfer that failed in part. A run resumes what is held; it empties the store when it commits, replaces
what is held when it fails in part, and leaves it alone when it fails before. A cleanup empties the store
when both sides are cleaned up, and leaves it alone otherwise. Between two turns the world may change in
any way that leaves what the store holds.

The store is the runner's own: the plugins leave its file alone.
-/
namespace BulkTransfer

theorem ResumeState.mem_phaseReports {state : ResumeState} {phase : TaskPhase} {report : Report} :
    report ∈ state.phaseReports phase ↔
      ∃ r ∈ state.tasks, r.phase = phase ∧ r.isCommitted = true ∧ r.report = some report := by
  simp only [phaseReports, List.mem_filterMap, List.mem_mergeSort, List.mem_filter, decide_eq_true_eq,
    and_assoc]

/-! ## What is asked of a runner, and what it answers -/

inductive Turn where
  | run (registry : Registry) (config : Config)
  | cleanup (registry : Registry) (config : Config)

inductive Reply where
  | ran (outcome : Except ExecutionError RunOutcome)
  | cleanedUp (outcome : Except ExecutionError Unit)

/-- What a store holds after a turn that found it holding `held`. -/
def Reply.leaves (held : Option ResumeState) : Reply → Option ResumeState
  | .ran (.ok _) => none
  | .ran (.error (.partiallyFailed state _ _)) => some state
  | .ran (.error _) => held
  | .cleanedUp (.ok _) => none
  | .cleanedUp (.error _) => held

section Laws

variable (s : StateStore) (registry : Registry) (config : Config) (held : Option ResumeState)
  (before : World)

/-- What becomes of a run that finds the store holding `held`. -/
structure RunLaw (outcome : Except ExecutionError RunOutcome) (after : World) : Prop where
  fresh : held = none → outcome.map RunOutcome.result =
    ((Executor.run registry config).run (s.load.run before).2).1
  resumed : ∀ state, held = some state → outcome.map RunOutcome.result =
    ((Executor.resume registry config state).run (s.load.run before).2).1
  committed : ∀ o, outcome = .ok o → o.isResumed = held.isSome ∧
    o.nextConfig = config.merge o.result.diff ∧ s.heldOn after.disk = .ok none
  failedInPart : ∀ state cause suppressed, outcome = .error (.partiallyFailed state cause suppressed) →
    s.textOn after.disk = .ok state.yaml ∧ s.heldOn after.disk = .ok (some state)
  failed : ∀ e, outcome = .error e →
    (∀ state cause suppressed, e ≠ .partiallyFailed state cause suppressed) →
      after = ((Executor.attempt registry config held).run (s.load.run before).2).2 ∧
        s.textOn after.disk = s.textOn before.disk ∧ s.heldOn after.disk = .ok held

/-- What becomes of a cleanup that finds the store holding `held`. -/
structure CleanupLaw (outcome : Except ExecutionError Unit) (after : World) : Prop where
  idle : held = none → outcome = .ok () ∧ after = (s.load.run before).2
  unresolved : ∀ state e, held = some state → TransferPlugins.resolve registry config = .error e →
    outcome = .error (.plugin e) ∧ after = (s.load.run before).2
  calls : ∀ state plugins, held = some state → TransferPlugins.resolve registry config = .ok plugins →
    let input := (plugins.input.cleanup state.inputTask state.inputSchema state.taskCount
      (state.phaseReports .input)).run (s.load.run before).2
    let output := (plugins.output.cleanup state.outputTask state.outputSchema state.taskCount
      (state.phaseReports .output)).run input.2
    (input.1 = .ok () ∧ output.1 = .ok () → outcome = .ok () ∧ after = (s.delete.run output.2).2) ∧
      (¬ (input.1 = .ok () ∧ output.1 = .ok ()) →
        outcome = .error (.cleanup (Executor.faults [input.1, output.1])) ∧ after = output.2)
  reports : ∀ state, held = some state → ∀ phase report, report ∈ state.phaseReports phase ↔
    ∃ r ∈ state.tasks, r.phase = phase ∧ r.isCommitted = true ∧ r.report = some report
  cleanedUp : outcome = .ok () → s.heldOn after.disk = .ok none
  failed : ∀ e, outcome = .error e →
    s.textOn after.disk = s.textOn before.disk ∧ s.heldOn after.disk = .ok held

/-- What a run asks of the store when its attempt has ended is done. -/
def StateStore.ServesRun : Except ExecutionError ExecutionResult × World → Prop
  | (.ok _, w) => s.Deletes w
  | (.error (.partiallyFailed state _ _), w) => s.Saves state w
  | (.error _, _) => True

/-- What a cleanup asks of the store when the plugins were called is done. -/
def StateStore.ServesCleanup : Except ExecutionError Unit × World → Prop
  | (.ok _, w) => s.Deletes w
  | (.error _, _) => True

end Laws

namespace Turn

variable (s : StateStore) (held : Option ResumeState) (before : World)

def play : Turn → Reply × World
  | .run registry config =>
    let played := (Runner.run registry (some s) config).run before
    (.ran played.1, played.2)
  | .cleanup registry config =>
    let played := (Runner.cleanup registry (some s) config).run before
    (.cleanedUp played.1, played.2)

/-- What the store is asked for succeeds. -/
def IsServed : Turn → Prop
  | .run registry config =>
    s.ServesRun ((Executor.attempt registry config held).run (s.load.run before).2)
  | .cleanup registry config => ∀ state ∈ held,
    s.ServesCleanup ((Executor.cleanup registry config state).run (s.load.run before).2)

/-- The plugins leave the file of the store as it is. -/
def Spares : Turn → Prop
  | .run registry config =>
    s.textOn ((Executor.attempt registry config held).run (s.load.run before).2).2.disk = s.textOn before.disk
  | .cleanup registry config => ∀ state ∈ held,
    s.textOn ((Executor.cleanup registry config state).run (s.load.run before).2).2.disk =
      s.textOn before.disk

def Obeys : Turn → Prop
  | .run registry config =>
    let played := (Runner.run registry (some s) config).run before
    RunLaw s registry config held before played.1 played.2
  | .cleanup registry config =>
    let played := (Runner.cleanup registry (some s) config).run before
    CleanupLaw s registry config held before played.1 played.2

end Turn

/-! ## Runs -/

namespace Runner

variable {s : StateStore} {registry : Registry} {config : Config} {held : Option ResumeState} {w : World}

theorem run_loaded (loads : s.Loads w held) : (run registry (some s) config).run w =
    let ended := (Executor.attempt registry config held).run (s.load.run w).2
    (finish registry (some s) config held.isSome ended.1).run ended.2 := by
  have loaded : (loadState (some s)).run w = (.ok held, (s.load.run w).2) := by
    change (Program.andThen s.load fun loaded => .done (loaded.mapError ExecutionError.stateStore)).run w = _
    rw [Program.run_andThen, loads.told]
    rfl
  rw [run_eq, loaded]

theorem finish_committed {result : ExecutionResult} (deletes : s.Deletes w) (isResumed : Bool) :
    (finish registry (some s) config isResumed (.ok result)).run w =
      (.ok ⟨result, config.merge result.diff, isResumed⟩, (s.delete.run w).2) := by
  change (Program.andThen (Program.andThen s.delete fun deleted =>
    .done (deleted.mapError ExecutionError.stateStore)) _).run w = _
  rw [Program.run_andThen, Program.run_andThen, deletes.told]
  rfl

theorem finish_saved {state : ResumeState} {cause : TaskError} {suppressed : List ExecutionError}
    (saves : s.Saves state w) (isResumed : Bool) :
    (finish registry (some s) config isResumed (.error (.partiallyFailed state cause suppressed))).run w =
      (.error (.partiallyFailed state cause suppressed), ((s.save state).run w).2) := by
  change (Program.andThen (Program.andThen (s.save state) fun saved =>
    .done (saved.mapError ExecutionError.stateStore)) _).run w = _
  rw [Program.run_andThen, Program.run_andThen, saves.told]
  rfl

theorem finish_failed {e : ExecutionError}
    (whole : ∀ state cause suppressed, e ≠ .partiallyFailed state cause suppressed) (isResumed : Bool) :
    (finish registry (some s) config isResumed (.error e)).run w = (.error e, w) := by
  cases e with
  | partiallyFailed state cause suppressed => exact absurd rfl (whole state cause suppressed)
  | _ => rfl

theorem heldOn_of_textOn (loads : s.Loads w held) {d : Disk} (same : s.textOn d = s.textOn w.disk) :
    s.heldOn d = .ok held := by
  rw [StateStore.heldOn, same]
  exact loads.found

theorem heldOn_loaded (loads : s.Loads w held) : s.heldOn (s.load.run w).2.disk = .ok held := by
  rw [s.load_run]
  exact heldOn_of_textOn loads (StateStore.textOn_congr rfl)

theorem run_obeys (loads : s.Loads w held) (served : (Turn.run registry config).IsServed s held w)
    (spared : (Turn.run registry config).Spares s held w) : (Turn.run registry config).Obeys s held w := by
  obtain ⟨ended, after, ran⟩ : ∃ ended after,
    (Executor.attempt registry config held).run (s.load.run w).2 = (ended, after) := ⟨_, _, rfl⟩
  have fresh : held = none → ended = ((Executor.run registry config).run (s.load.run w).2).1 := by
    rintro rfl
    exact (congrArg Prod.fst ran).symm
  have resumed (state : ResumeState) : held = some state →
      ended = ((Executor.resume registry config state).run (s.load.run w).2).1 := by
    rintro rfl
    exact (congrArg Prod.fst ran).symm
  simp only [Turn.IsServed, ran] at served
  simp only [Turn.Spares, ran] at spared
  simp only [Turn.Obeys, run_loaded loads, ran]
  cases ended with
  | ok result =>
    rw [finish_committed served]
    exact {
      fresh, resumed
      committed := by
        rintro _ ⟨⟩
        exact ⟨rfl, rfl, served.emptied⟩
      failedInPart := nofun
      failed := nofun }
  | error e =>
    by_cases whole : ∀ state cause suppressed, e ≠ .partiallyFailed state cause suppressed
    · rw [finish_failed whole]
      exact {
        fresh, resumed
        committed := nofun
        failedInPart := by
          rintro state cause suppressed ⟨⟩
          exact absurd rfl (whole state cause suppressed)
        failed := fun _ _ _ => ⟨(congrArg Prod.snd ran).symm, spared, heldOn_of_textOn loads spared⟩ }
    · push Not at whole
      obtain ⟨state, cause, suppressed, rfl⟩ := whole
      rw [finish_saved served]
      exact {
        fresh, resumed
        committed := nofun
        failedInPart := by
          rintro _ _ _ ⟨⟩
          exact ⟨served.written, served.kept⟩
        failed := by
          rintro _ ⟨⟩ whole
          exact absurd rfl (whole state cause suppressed) }

end Runner

/-! ## Cleanups -/

namespace Executor

variable {registry : Registry} {config : Config} {state : ResumeState} {plugins : TransferPlugins}
  {w : World}

theorem faults_eq_nil {input output : Attempt Unit} :
    faults [input, output] = [] ↔ input = .ok () ∧ output = .ok () := by
  cases input <;> cases output <;> simp [faults]

theorem cleanup_unresolved {e : PluginError} (failed : TransferPlugins.resolve registry config = .error e) :
    (cleanup registry config state).run w = (.error (.plugin e), w) := by
  rw [cleanup, failed]
  rfl

/-- A cleanup calls the input and then the output, each of them once. -/
theorem cleanup_run (resolved : TransferPlugins.resolve registry config = .ok plugins) :
    let input := (plugins.input.cleanup state.inputTask state.inputSchema state.taskCount
      (state.phaseReports .input)).run w
    let output := (plugins.output.cleanup state.outputTask state.outputSchema state.taskCount
      (state.phaseReports .output)).run input.2
    (cleanup registry config state).run w =
      (if faults [input.1, output.1] = [] then .ok () else .error (.cleanup (faults [input.1, output.1])),
        output.2) := by
  intro input output
  unfold cleanup
  rw [resolved]
  change (Program.andThen (plugins.input.cleanup _ _ _ _) fun _ =>
    Program.andThen (plugins.output.cleanup _ _ _ _) _).run w = _
  rw [Program.run_andThen, Program.run_andThen]
  split
  · rename_i well
    rw [if_pos (show faults [input.1, output.1] = [] from well)]
    rfl
  · rename_i fails
    rw [if_neg (show faults [input.1, output.1] ≠ [] from fails)]
    rfl

end Executor

namespace Runner

variable {s : StateStore} {registry : Registry} {config : Config} {state : ResumeState} {w : World}

theorem cleanup_idle (loads : s.Loads w none) :
    (cleanup registry (some s) config).run w = (.ok (), (s.load.run w).2) := by
  change (Program.andThen s.load _).run w = _
  rw [Program.run_andThen, loads.told]
  rfl

theorem cleanup_held (loads : s.Loads w (some state)) : (cleanup registry (some s) config).run w =
    let cleaned := (Executor.cleanup registry config state).run (s.load.run w).2
    match cleaned.1 with
    | .error e => (.error e, cleaned.2)
    | .ok _ => ((s.delete.run cleaned.2).1.mapError .stateStore, (s.delete.run cleaned.2).2) := by
  change (Program.andThen s.load _).run w = _
  rw [Program.run_andThen, loads.told]
  change (Program.andThen (Executor.cleanup registry config state) _).run _ = _
  rw [Program.run_andThen]
  dsimp only
  cases ((Executor.cleanup registry config state).run (s.load.run w).2).1 with
  | error e => rfl
  | ok _ => exact Program.run_andThen s.delete _ _

theorem cleanup_obeys {held : Option ResumeState} (loads : s.Loads w held)
    (served : (Turn.cleanup registry config).IsServed s held w)
    (spared : (Turn.cleanup registry config).Spares s held w) :
    (Turn.cleanup registry config).Obeys s held w := by
  cases held with
  | none =>
    simp only [Turn.Obeys, cleanup_idle loads]
    exact {
      idle := fun _ => ⟨rfl, rfl⟩
      unresolved := nofun
      calls := nofun
      reports := nofun
      cleanedUp := fun _ => heldOn_loaded loads
      failed := nofun }
  | some state =>
    obtain ⟨cleaned, after, ran⟩ : ∃ cleaned after,
      (Executor.cleanup registry config state).run (s.load.run w).2 = (cleaned, after) := ⟨_, _, rfl⟩
    replace served := served state rfl
    replace spared := spared state rfl
    rw [ran] at served spared
    simp only [Turn.Obeys, cleanup_held loads, ran]
    have reports : ∀ saved, some state = some saved → ∀ phase report,
        report ∈ saved.phaseReports phase ↔
          ∃ r ∈ saved.tasks, r.phase = phase ∧ r.isCommitted = true ∧ r.report = some report :=
      fun _ _ _ _ => ResumeState.mem_phaseReports
    cases cleaned with
    | ok _ =>
      simp only [served.told]
      exact {
        idle := nofun
        unresolved := by
          rintro _ e ⟨⟩ failed
          rw [Executor.cleanup_unresolved failed] at ran
          cases ran
        calls := by
          rintro _ plugins ⟨⟩ resolved input output
          rw [Executor.cleanup_run resolved] at ran
          obtain ⟨told, rfl⟩ := Prod.ext_iff.mp ran
          have well : Executor.faults [input.1, output.1] = [] := by
            by_contra fails
            rw [if_neg fails] at told
            cases told
          exact ⟨fun _ => ⟨rfl, rfl⟩, fun fails => absurd (Executor.faults_eq_nil.mp well) fails⟩
        reports
        cleanedUp := fun _ => served.emptied
        failed := nofun }
    | error e =>
      exact {
        idle := nofun
        unresolved := by
          rintro _ e ⟨⟩ failed
          rw [Executor.cleanup_unresolved failed] at ran
          cases ran
          exact ⟨rfl, rfl⟩
        calls := by
          rintro _ plugins ⟨⟩ resolved input output
          rw [Executor.cleanup_run resolved] at ran
          obtain ⟨told, rfl⟩ := Prod.ext_iff.mp ran
          have fails : Executor.faults [input.1, output.1] ≠ [] := by
            intro well
            rw [if_pos well] at told
            cases told
          rw [if_neg fails] at told
          cases told
          exact ⟨fun well => absurd (Executor.faults_eq_nil.mpr well) fails, fun _ => ⟨rfl, rfl⟩⟩
        reports
        cleanedUp := nofun
        failed := fun _ _ => ⟨spared, heldOn_of_textOn loads spared⟩ }

end Runner

/-! ## Runs without a store -/

/-- What becomes of a run that has no store: what has failed in part is cleaned up, once and at once, and
stays the failure that is told. -/
structure StorelessLaw (registry : Registry) (config : Config) (before : World) : Prop where
  silent : Executor.run registry.withoutCleanups config = Executor.run registry config
  cleansUp : ∀ state cause suppressed w, (Executor.run registry config).run before =
      (.error (.partiallyFailed state cause suppressed), w) →
    ∃ plugins, TransferPlugins.resolve registry config = .ok plugins ∧
      let input := (plugins.input.cleanup state.inputTask state.inputSchema state.taskCount
        (state.phaseReports .input)).run w
      let output := (plugins.output.cleanup state.outputTask state.outputSchema state.taskCount
        (state.phaseReports .output)).run input.2
      let faults := Executor.faults [input.1, output.1]
      (Runner.run registry none config).run before =
        (.error (.partiallyFailed state cause
          (suppressed ++ if faults = [] then [] else [.cleanup faults])), output.2)
  onlyThen : ∀ state cause told,
    ((Runner.run registry none config).run before).1 = .error (.partiallyFailed state cause told) →
      ∃ suppressed w, (Executor.run registry config).run before =
        (.error (.partiallyFailed state cause suppressed), w)

namespace Executor

variable {registry : Registry} {config : Config}

theorem departure_resolved {d : Departure} (departs : departure registry config = .ok d) :
    ∃ plugins, TransferPlugins.resolve registry config = .ok plugins := by
  rw [departure] at departs
  split at departs
  · cases departs
  · split at departs
    · cases departs
    · rename_i plugins resolved
      exact ⟨plugins, resolved⟩

theorem run_resolved {state : ResumeState} {cause : TaskError} {suppressed : List ExecutionError}
    {before w : World}
    (ran : (run registry config).run before = (.error (.partiallyFailed state cause suppressed), w)) :
    ∃ plugins, TransferPlugins.resolve registry config = .ok plugins := by
  cases departs : departure registry config with
  | ok d => exact departure_resolved departs
  | error e =>
    have grounds : departureFrom registry config none = .error e := departs
    have grounded : (attempt registry config none).run before = _ := attempt_grounded grounds
    rw [attempt, ran] at grounded
    cases grounded
    exact absurd rfl (departureFrom_error grounds state cause suppressed)

end Executor

namespace Runner

variable {registry : Registry} {config : Config}

theorem finish_salvaged {state : ResumeState} {cause : TaskError} {suppressed : List ExecutionError}
    (w : World) :
    (finish registry none config false (.error (.partiallyFailed state cause suppressed))).run w =
      let cleaned := (Executor.cleanup registry config state).run w
      (.error (suppress (.partiallyFailed state cause suppressed) cleaned.1), cleaned.2) := by
  change (Program.andThen (Executor.cleanup registry config state) _).run w = _
  rw [Program.run_andThen]
  rfl

theorem run_storeless (registry : Registry) (config : Config) (before : World) :
    StorelessLaw registry config before := by
  have played := run_eq registry none config before
  change _ = (finish registry none config false ((Executor.run registry config).run before).1).run
    ((Executor.run registry config).run before).2 at played
  refine ⟨Executor.attempt_withoutCleanups registry config none, ?_, ?_⟩
  · intro state cause suppressed w ran
    obtain ⟨plugins, resolved⟩ := Executor.run_resolved ran
    refine ⟨plugins, resolved, ?_⟩
    intro input output faults
    have cleaned : (Executor.cleanup registry config state).run w = _ := Executor.cleanup_run resolved
    rw [played, ran, finish_salvaged, cleaned]
    by_cases well : faults = []
    · simp only [if_pos well, suppress, List.append_nil]
      rw [if_pos well]
    · simp only [if_neg well, suppress]
      rw [if_neg well]
  · intro state cause told failed
    rw [played] at failed
    generalize (Executor.run registry config).run before = ran at failed ⊢
    obtain ⟨ended, w⟩ := ran
    cases ended with
    | ok result => cases failed
    | error e =>
      cases e with
      | partiallyFailed state' cause' suppressed =>
        dsimp only at failed
        rw [finish_salvaged] at failed
        dsimp only at failed
        generalize ((Executor.cleanup registry config state').run w).1 = late at failed
        cases late <;> cases failed <;> exact ⟨_, w, rfl⟩
      | _ => cases failed

end Runner

/-! ## Turns that follow each other -/

/-- A turn, and the world in which it is taken. -/
structure Play where
  turn : Turn
  before : World

namespace Play

variable (s : StateStore) (p : Play)

def reply : Reply := (p.turn.play s p.before).1

def after : World := (p.turn.play s p.before).2

/-- The second turn finds the store holding what the first one has left. -/
def Precedes (p q : Play) : Prop := s.heldOn q.before.disk = s.heldOn (p.after s).disk

/-- The operations of the store succeed, and it is the runner's own. -/
def IsServed : Prop :=
  ∃ held, s.Loads p.before held ∧ p.turn.IsServed s held p.before ∧ p.turn.Spares s held p.before

end Play

/-- Each turn obeys the laws for what the store holds then, which is what the turn before has left. -/
def StateStore.MovesWith (s : StateStore) : Option ResumeState → List Play → Prop
  | _, [] => True
  | held, p :: rest =>
    s.heldOn p.before.disk = .ok held ∧ p.turn.Obeys s held p.before ∧
      s.heldOn (p.after s).disk = .ok ((p.reply s).leaves held) ∧
        s.MovesWith ((p.reply s).leaves held) rest

section Sequences

variable {s : StateStore} {held : Option ResumeState} {before : World}

theorem Turn.obeys {t : Turn} (loads : s.Loads before held) (served : t.IsServed s held before)
    (spared : t.Spares s held before) : t.Obeys s held before := by
  cases t with
  | run registry config => exact Runner.run_obeys loads served spared
  | cleanup registry config => exact Runner.cleanup_obeys loads served spared

/-- The reply of a turn tells what the store holds then. -/
theorem Turn.Obeys.leaves {t : Turn} (obeys : t.Obeys s held before) :
    s.heldOn (t.play s before).2.disk = .ok ((t.play s before).1.leaves held) := by
  cases t with
  | run registry config =>
    simp only [Turn.Obeys] at obeys
    simp only [Turn.play]
    generalize (Runner.run registry (some s) config).run before = played at obeys ⊢
    obtain ⟨outcome, after⟩ := played
    cases outcome with
    | ok o => exact (obeys.committed o rfl).2.2
    | error e =>
      cases e with
      | partiallyFailed state cause suppressed => exact (obeys.failedInPart state cause suppressed rfl).2
      | _ => exact (obeys.failed _ rfl nofun).2.2
  | cleanup registry config =>
    simp only [Turn.Obeys] at obeys
    simp only [Turn.play]
    generalize (Runner.cleanup registry (some s) config).run before = played at obeys ⊢
    obtain ⟨outcome, after⟩ := played
    cases outcome with
    | ok _ => exact obeys.cleanedUp rfl
    | error e => exact (obeys.failed e rfl).2

theorem movesWith_of_served {plays : List Play} (linked : plays.IsChain (Play.Precedes s))
    (served : ∀ p ∈ plays, p.IsServed s) (held : Option ResumeState)
    (begins : ∀ p ∈ plays.head?, s.heldOn p.before.disk = .ok held) : s.MovesWith held plays := by
  induction plays generalizing held with
  | nil => trivial
  | cons p rest ih =>
    obtain ⟨found, loads, turnServed, spared⟩ := served p List.mem_cons_self
    have holds := begins p rfl
    obtain rfl : found = held := Except.ok.inj (loads.found.symm.trans holds)
    have obeys := Turn.obeys loads turnServed spared
    obtain ⟨next, linked⟩ := List.isChain_cons.mp linked
    refine ⟨holds, obeys, obeys.leaves, ih linked (fun q hq => served q (List.mem_cons_of_mem p hq)) _ ?_⟩
    intro q hq
    exact (next q hq).trans obeys.leaves

/-- Runs and cleanups that share a store whose operations succeed move it as their replies tell. No such run
calls a cleanup, and a run without a store cleans up at once what has failed in part. -/
theorem runner_follows_its_state_machine (s : StateStore) {plays : List Play}
    (linked : plays.IsChain (Play.Precedes s)) (served : ∀ p ∈ plays, p.IsServed s) :
    (∃ held, s.MovesWith held plays) ∧
      (∀ registry config, Runner.run registry.withoutCleanups (some s) config =
        Runner.run registry (some s) config) ∧
      ∀ registry config before, StorelessLaw registry config before := by
  refine ⟨?_, fun registry config => Runner.run_withoutCleanups registry s config, Runner.run_storeless⟩
  cases plays with
  | nil => exact ⟨none, trivial⟩
  | cons p rest =>
    obtain ⟨held, loads, -⟩ := served p List.mem_cons_self
    refine ⟨held, movesWith_of_served linked served held ?_⟩
    rintro _ ⟨⟩
    exact loads.found

end Sequences

section Rehearsed

deriving instance DecidableEq for StateStoreError

def rehearsedStore : StateStore := ⟨"state.yml"⟩

/-- A transfer whose only task has failed. -/
def failedTask : ResumeState where
  runId := "r"
  execConfig := Document.empty
  inputTask := ⟨[("rows", .ofNat 0)]⟩
  inputSchema := .empty
  outputTask := Document.empty
  outputSchema := .empty
  filterTasks := []
  filterSchemas := []
  taskCount := 1
  tasks := [⟨.input, 0, false, ⟨[("rows", .ofNat 0)]⟩, none⟩, ⟨.output, 0, false, Document.empty, none⟩]

def failedTaskText : String :=
  "run_id: r\nexec_config: \x7b\x7d\ninput_task:\n  rows: 0\ninput_schema: []\n" ++
    "output_task: \x7b\x7d\noutput_schema: []\nfilter_tasks: []\nfilter_schemas: []\n" ++
    "task_count: 1\ntasks:\n- phase: input\n  index: 0\n  committed: false\n  task_source:\n" ++
    "    rows: 0\n- phase: output\n  index: 0\n  committed: false\n  task_source: \x7b\x7d\n"

theorem failedTask_yaml : failedTask.yaml = failedTaskText := by decide +kernel

theorem failedTask_readsBack : rehearsedStore.reading (.ok failedTaskText) = .ok (some failedTask) := by
  unfold StateStore.reading ResumeState.ofYaml Tree.ofYaml Yaml.LinkedDocument.ofText Yaml.Token.ofText
  -- The text as a list of characters, which would be decoded again and again otherwise.
  unfold failedTaskText
  dsimp only
  rw [← String.length_toList, String.toList_append, String.toList_append, String.toList_append,
    String.toList_ofList, String.toList_ofList, String.toList_ofList, String.toList_ofList]
  decide +kernel

/-- A world whose disk has nothing but the state of the failed transfer. -/
def heldWorld : World :=
  .ofDisk (Disk.empty.putNode ["state.yml"] (.file (Utf8.encode failedTaskText)))

theorem heldWorld_holds : rehearsedStore.heldOn heldWorld.disk = .ok (some failedTask) := by
  have place : Path.place rehearsedStore.path = ["state.yml"] := by decide
  have way : heldWorld.disk.LeadsTo rehearsedStore.path := ⟨by decide, by decide⟩
  have text : rehearsedStore.textOn heldWorld.disk = .ok failedTaskText :=
    StateStore.textOn_of_file way (by rw [place]; rfl)
  rw [StateStore.heldOn, text, failedTask_readsBack]

theorem heldWorld_loads : rehearsedStore.Loads heldWorld (some failedTask) :=
  StateStore.loads_of_heldOn heldWorld_holds rfl

theorem heldWorld_loaded : (rehearsedStore.load.run heldWorld).2 =
    { heldWorld with disk := heldWorld.disk.counted } := by
  rw [StateStore.load_run]

def endsInPart : Except ExecutionError ExecutionResult × World → Bool
  | (.error (.partiallyFailed state _ _), w) => decide (state = failedTask) &&
    decide (((rehearsedStore.save failedTask).run w).1 = .ok ()) &&
      decide (w.disk.nodes = heldWorld.disk.nodes)
  | _ => false

def endsRefused : Except ExecutionError Unit × World → Bool
  | (.error _, w) => decide (w.disk.nodes = heldWorld.disk.nodes)
  | _ => false

def endsCommitted : Except ExecutionError ExecutionResult × World → Bool
  | (.ok _, w) => decide ((rehearsedStore.delete.run w).1 = .ok ()) &&
    decide (w.disk.refusal w.disk.clock (.remove rehearsedStore.path) ≠ some .notFound) &&
      decide (w.disk.nodes = heldWorld.disk.nodes)
  | _ => false

/-- What is checked of the three turns, which are played here and nowhere else. -/
theorem heldWorld_plays :
    endsInPart ((Executor.attempt (Rehearsal.registry { badRows := [0] }) Journey.twoTasks
        (some failedTask)).run { heldWorld with disk := heldWorld.disk.counted }) = true ∧
      endsRefused ((Executor.cleanup (Rehearsal.registry { inputCleanup := some "busy" })
        Journey.twoTasks failedTask).run { heldWorld with disk := heldWorld.disk.counted }) = true ∧
      endsCommitted ((Executor.attempt (Rehearsal.registry {}) Journey.twoTasks
        (some failedTask)).run { heldWorld with disk := heldWorld.disk.counted }) = true := by
  decide +kernel

theorem heldWorld_fails : ∃ cause suppressed w,
    (Executor.attempt (Rehearsal.registry { badRows := [0] }) Journey.twoTasks (some failedTask)).run
      (rehearsedStore.load.run heldWorld).2 = (.error (.partiallyFailed failedTask cause suppressed), w) ∧
        rehearsedStore.Saves failedTask w ∧
          rehearsedStore.textOn w.disk = rehearsedStore.textOn heldWorld.disk := by
  rw [heldWorld_loaded]
  obtain ⟨checked, -, -⟩ := heldWorld_plays
  unfold endsInPart at checked
  split at checked
  · rename_i state cause suppressed w ran
    simp only [Bool.and_eq_true, decide_eq_true_eq] at checked
    obtain ⟨⟨rfl, told⟩, same⟩ := checked
    exact ⟨cause, suppressed, w, ran, ⟨told, failedTask_yaml ▸ failedTask_readsBack⟩,
      StateStore.textOn_congr same⟩
  · cases checked

theorem heldWorld_refuses : ∃ e w,
    (Executor.cleanup (Rehearsal.registry { inputCleanup := some "busy" }) Journey.twoTasks failedTask).run
      (rehearsedStore.load.run heldWorld).2 = (.error e, w) ∧
        rehearsedStore.textOn w.disk = rehearsedStore.textOn heldWorld.disk := by
  rw [heldWorld_loaded]
  obtain ⟨-, checked, -⟩ := heldWorld_plays
  unfold endsRefused at checked
  split at checked
  · rename_i e w ran
    exact ⟨e, w, ran, StateStore.textOn_congr (of_decide_eq_true checked)⟩
  · cases checked

theorem heldWorld_commits : ∃ result w,
    (Executor.attempt (Rehearsal.registry {}) Journey.twoTasks (some failedTask)).run
      (rehearsedStore.load.run heldWorld).2 = (.ok result, w) ∧ rehearsedStore.Deletes w ∧
        rehearsedStore.textOn w.disk = rehearsedStore.textOn heldWorld.disk := by
  rw [heldWorld_loaded]
  obtain ⟨-, -, checked⟩ := heldWorld_plays
  unfold endsCommitted at checked
  split at checked
  · rename_i result w ran
    simp only [Bool.and_eq_true, decide_eq_true_eq] at checked
    exact ⟨result, w, ran, ⟨checked.1.1, checked.1.2⟩, StateStore.textOn_congr checked.2⟩
  · cases checked

theorem emptyWorld_loads : rehearsedStore.Loads default none :=
  StateStore.loads_of_heldOn (StateStore.heldOn_missing (by decide)) rfl

/-- A transfer fails in part again, its cleanup fails, it is resumed and commits, and nothing is left to
clean up. -/
theorem failed_task_is_resumed_by_turns : ∃ plays : List Play,
    (∃ held, rehearsedStore.MovesWith held plays) ∧
      plays.map (fun p => rehearsedStore.heldOn (p.after rehearsedStore).disk) =
        [.ok (some failedTask), .ok (some failedTask), .ok none, .ok none] := by
  -- The registries and the world are kept abstract, or every step would run the transfers again.
  obtain ⟨w, failing, refusing, committing, loads, ⟨cause, suppressed, failed, fails, saves, spared⟩,
      ⟨e, refused, cleanup, same⟩, result, committed, commit, deletes, spared'⟩ :
      ∃ (w : World) (failing refusing committing : Registry), rehearsedStore.Loads w (some failedTask) ∧
        (∃ cause suppressed w', (Executor.attempt failing Journey.twoTasks (some failedTask)).run
          (rehearsedStore.load.run w).2 = (.error (.partiallyFailed failedTask cause suppressed), w') ∧
            rehearsedStore.Saves failedTask w' ∧
              rehearsedStore.textOn w'.disk = rehearsedStore.textOn w.disk) ∧
        (∃ e w', (Executor.cleanup refusing Journey.twoTasks failedTask).run
          (rehearsedStore.load.run w).2 = (.error e, w') ∧
            rehearsedStore.textOn w'.disk = rehearsedStore.textOn w.disk) ∧
        ∃ result w', (Executor.attempt committing Journey.twoTasks (some failedTask)).run
          (rehearsedStore.load.run w).2 = (.ok result, w') ∧ rehearsedStore.Deletes w' ∧
            rehearsedStore.textOn w'.disk = rehearsedStore.textOn w.disk :=
    ⟨heldWorld, _, _, _, heldWorld_loads, heldWorld_fails, heldWorld_refuses, heldWorld_commits⟩
  let first : Play := ⟨.run failing Journey.twoTasks, w⟩
  let second : Play := ⟨.cleanup refusing Journey.twoTasks, w⟩
  let third : Play := ⟨.run committing Journey.twoTasks, w⟩
  let fourth : Play := ⟨.cleanup committing Journey.twoTasks, default⟩
  have firstPlayed : (Runner.run failing (some rehearsedStore) Journey.twoTasks).run w = _ :=
    Runner.run_loaded loads
  have secondPlayed : (Runner.cleanup refusing (some rehearsedStore) Journey.twoTasks).run w = _ :=
    Runner.cleanup_held loads
  have thirdPlayed : (Runner.run committing (some rehearsedStore) Journey.twoTasks).run w = _ :=
    Runner.run_loaded loads
  have fourthPlayed : (Runner.cleanup committing (some rehearsedStore) Journey.twoTasks).run default = _ :=
    Runner.cleanup_idle emptyWorld_loads
  rw [fails, Runner.finish_saved saves] at firstPlayed
  rw [cleanup] at secondPlayed
  rw [commit, Runner.finish_committed deletes] at thirdPlayed
  have firstLeaves : rehearsedStore.heldOn (first.after rehearsedStore).disk = .ok (some failedTask) := by
    simp only [first, Play.after, Turn.play, firstPlayed, saves.kept]
  have secondLeaves : rehearsedStore.heldOn (second.after rehearsedStore).disk = .ok (some failedTask) := by
    simp only [second, Play.after, Turn.play, secondPlayed, Runner.heldOn_of_textOn loads same]
  have thirdLeaves : rehearsedStore.heldOn (third.after rehearsedStore).disk = .ok none := by
    simp only [third, Play.after, Turn.play, thirdPlayed, deletes.emptied]
  have fourthLeaves : rehearsedStore.heldOn (fourth.after rehearsedStore).disk = .ok none := by
    simp only [fourth, Play.after, Turn.play, fourthPlayed, Runner.heldOn_loaded emptyWorld_loads]
  have linked : [first, second, third, fourth].IsChain (Play.Precedes rehearsedStore) :=
    .cons_cons (loads.found.trans firstLeaves.symm) (.cons_cons (loads.found.trans secondLeaves.symm)
      (.cons_cons (emptyWorld_loads.found.trans thirdLeaves.symm) (.singleton _)))
  have served : ∀ p ∈ [first, second, third, fourth], p.IsServed rehearsedStore := by
    intro p hp
    simp only [List.mem_cons, List.not_mem_nil, or_false] at hp
    rcases hp with rfl | rfl | rfl | rfl
    · refine ⟨some failedTask, loads, ?_, ?_⟩
      · simpa only [first, Turn.IsServed, fails, StateStore.ServesRun] using saves
      · simpa only [first, Turn.Spares, fails] using spared
    · refine ⟨some failedTask, loads, ?_, ?_⟩
      · rintro _ ⟨⟩
        rw [cleanup]
        trivial
      · rintro _ ⟨⟩
        rwa [cleanup]
    · refine ⟨some failedTask, loads, ?_, ?_⟩
      · simpa only [third, Turn.IsServed, commit, StateStore.ServesRun] using deletes
      · simpa only [third, Turn.Spares, commit] using spared'
    · exact ⟨none, emptyWorld_loads, nofun, nofun⟩
  refine ⟨[first, second, third, fourth],
    (runner_follows_its_state_machine rehearsedStore linked served).1, ?_⟩
  simp only [List.map_cons, List.map_nil, firstLeaves, secondLeaves, thirdLeaves, fourthLeaves]

end Rehearsed

end BulkTransfer
