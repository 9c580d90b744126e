import BulkTransfer.Proofs.World.Region
import BulkTransfer.Transfer.ExecConfig
import BulkTransfer.Transfer.Workers
import Mathlib.Data.List.Perm.Basic
/-!
# Every task is accounted for

Whatever the schedule, each task of a session waits, runs or has ended, and a task that ended without
having been launched was cancelled. Waiting for all tasks is only one more way to go on with the
schedule, so an invariant has to be shown for single choices alone.
-/
namespace BulkTransfer

namespace TaskPlan

theorem settle_index {σ : Type} (sink : PageSink σ) (index : Nat) (report : Report) (s : σ) :
    (settle sink index report s).Always fun o => o.1.index = index := by
  refine Program.always_andThen _ fun (answer, s) => ?_
  cases answer with
  | ok outputReport => exact Program.always_andThen _ fun _ => rfl
  | error e =>
    exact Program.always_andThen _ fun _ => Program.always_andThen _ fun _ => rfl

theorem performIn_index {σ : Type} (p : TaskPlan) (index : Nat) (sink : PageSink σ) (s : σ) :
    (p.performIn index sink s).Always fun o => o.1.index = index := by
  refine Program.always_andThen _ fun (started, s) => ?_
  cases started with
  | error e => rfl
  | ok _ =>
    refine Program.always_andThen _ fun (read, s) => ?_
    match read with
    | .ok report => exact settle_index sink index report s
    | .error (.panicked text) => rfl
    | .error (.failed e) =>
      exact Program.always_andThen _ fun _ => Program.always_andThen _ fun _ => rfl

/-- However a task ends, its outcome is its own. -/
theorem perform_index (p : TaskPlan) (index : Nat) :
    (p.perform index).Always fun o => o.index = index := by
  unfold perform
  split
  · rfl
  · exact (p.performIn_index index _ _).andThen fun _ h => h

end TaskPlan

/-- A running task dies. -/
def Choice.IsCrash : Choice → Prop
  | .crash _ _ => True
  | .launch | .step _ | .stop => False

/-- A task is launched or goes on. -/
def Choice.IsPlain : Choice → Prop
  | .launch | .step _ => True
  | .crash _ _ | .stop => False

namespace Crew

variable {p : TaskPlan} {limit : Option Nat} {c : Crew} {w : World}

theorem followAll_append (c : Crew) (w : World) (first second : List Choice) :
    c.followAll p limit w (first ++ second) =
      (c.followAll p limit w first).1.followAll p limit (c.followAll p limit w first).2 second := by
  induction first generalizing c w with
  | nil => rfl
  | cons choice first ih => exact ih _ _

/-- An invariant of single choices is one of a schedule. -/
theorem followAll_invariant {I : Crew → World → Prop} {schedule : List Choice}
    (step : ∀ c w, ∀ choice ∈ schedule, I c w →
      I (c.follow p limit w choice).1 (c.follow p limit w choice).2)
    (h : I c w) :
    I (c.followAll p limit w schedule).1 (c.followAll p limit w schedule).2 := by
  induction schedule generalizing c w with
  | nil => exact h
  | cons choice rest ih =>
    exact ih (fun c w other hm => step c w other (List.mem_cons_of_mem _ hm))
      (step c w choice List.mem_cons_self h)

/-- A choice that a running task goes on comes to nothing, to its end or to its next step. -/
theorem step_cases (c : Crew) (place : Nat) (w : World) :
    (c.running[place]? = none ∧ c.step place w = (c, w)) ∨
      (∃ index o, c.running[place]? = some (index, .done o) ∧ c.step place w =
        ({ c with running := c.running.eraseIdx place, ended := c.ended ++ [o] }, w)) ∨
      ∃ index change next, c.running[place]? = some (index, .step change next) ∧ c.step place w =
        ({ c with running := c.running.set place (index, next w) }, change w) := by
  cases ht : c.running[place]? with
  | none => exact .inl ⟨rfl, by simp only [step, ht]⟩
  | some task =>
    obtain ⟨index, program⟩ := task
    cases program with
    | done o => exact .inr (.inl ⟨index, o, rfl, by simp only [step, ht]⟩)
    | step change next =>
      exact .inr (.inr ⟨index, change, next, rfl, by simp only [step, ht, Program.advance]⟩)
    | ask q next => cases q

/-- The first running task can be run to its end by single steps. -/
theorem run_first (limit : Option Nat) {index : Nat} {program : Action TaskOutcome}
    {rest : List (Nat × Action TaskOutcome)} (h : c.running = (index, program) :: rest) :
    ∃ schedule, (∀ choice ∈ schedule, choice.IsPlain) ∧ c.followAll p limit w schedule =
      ({ c with running := rest, ended := c.ended ++ [(program.run w).1] }, (program.run w).2) := by
  induction program generalizing c w with
  | done o =>
    refine ⟨[.step 0], List.forall_mem_singleton.mpr trivial, ?_⟩
    simp only [followAll, follow, step, h, List.getElem?_cons_zero, List.eraseIdx_cons_zero]
    rfl
  | step change next ih =>
    obtain ⟨schedule, plain, rest⟩ := ih w (c := { c with running := (index, next w) :: rest })
      (w := change w) rfl
    refine ⟨.step 0 :: schedule, List.forall_mem_cons.mpr ⟨trivial, plain⟩, ?_⟩
    simp only [followAll, follow, step, h, List.getElem?_cons_zero, List.set_cons_zero,
      Program.advance]
    exact rest
  | ask q next _ => exact nomatch q

theorem run_running (limit : Option Nat) {running : List (Nat × Action TaskOutcome)}
    (h : c.running = running) :
    ∃ schedule, (∀ choice ∈ schedule, choice.IsPlain) ∧ c.followAll p limit w schedule =
      ({ c with running := [], ended := c.ended ++ (finishRunning running w).1 },
        (finishRunning running w).2) := by
  induction running generalizing c w with
  | nil => exact ⟨[], by simp, by simp [followAll, finishRunning, ← h]⟩
  | cons task rest ih =>
    obtain ⟨index, program⟩ := task
    obtain ⟨first, plain, ran⟩ := run_first (p := p) (w := w) limit h
    obtain ⟨others, later, done⟩ := ih (w := (program.run w).2)
      (c := { c with running := rest, ended := c.ended ++ [(program.run w).1] }) rfl
    refine ⟨first ++ others, List.forall_mem_append.mpr ⟨plain, later⟩, ?_⟩
    rw [followAll_append, ran, done]
    simp only [finishRunning, List.append_assoc, List.singleton_append]

theorem run_waiting (room : limit.all (0 < ·)) {waiting : List Nat} (h : c.waiting = waiting)
    (idle : c.running = []) :
    ∃ schedule, (∀ choice ∈ schedule, choice.IsPlain) ∧ c.followAll p limit w schedule =
      finishWaiting p { c with waiting := [] } w waiting := by
  induction waiting generalizing c w with
  | nil => exact ⟨[], by simp, by simp [followAll, finishWaiting, ← h]⟩
  | cons index rest ih =>
    by_cases stopped : w.isCancelled
    · obtain ⟨others, later, done⟩ := ih (w := w)
        (c := { c with waiting := rest, ended := c.ended ++ [.failed index .cancelled] }) rfl idle
      refine ⟨.launch :: others, List.forall_mem_cons.mpr ⟨trivial, later⟩, ?_⟩
      simp only [followAll, follow, launch, h, stopped, if_true, finishWaiting]
      exact done
    · obtain ⟨first, plain, ran⟩ := run_first (p := p) (w := w) limit
        (c := { c with
          waiting := rest
          running := [(index, p.perform index)]
          launched := c.launched ++ [index] }) rfl
      obtain ⟨others, later, done⟩ := ih (w := ((p.perform index).run w).2)
        (c := { c with
          waiting := rest
          running := []
          launched := c.launched ++ [index]
          ended := c.ended ++ [((p.perform index).run w).1] }) rfl rfl
      refine ⟨.launch :: (first ++ others), List.forall_mem_cons.mpr
        ⟨trivial, List.forall_mem_append.mpr ⟨plain, later⟩⟩, ?_⟩
      simp only [followAll, follow, launch, h, idle, stopped, List.length_nil, room, if_true,
        Bool.false_eq_true, if_false, List.nil_append, finishWaiting]
      rw [followAll_append, ran, done]

/-- Waiting for all tasks is what some further choices come to. -/
theorem finish_follows (room : limit.all (0 < ·)) (c : Crew) (w : World) :
    ∃ schedule, (∀ choice ∈ schedule, choice.IsPlain) ∧
      c.followAll p limit w schedule = c.finish p w := by
  obtain ⟨first, plain, ran⟩ := run_running (p := p) (w := w) (c := c) limit rfl
  obtain ⟨others, later, done⟩ := run_waiting (p := p) (w := (finishRunning c.running w).2) room
    (c := { c with running := [], ended := c.ended ++ (finishRunning c.running w).1 }) rfl rfl
  refine ⟨first ++ others, List.forall_mem_append.mpr ⟨plain, later⟩, ?_⟩
  rw [followAll_append, ran, done]
  rfl

theorem finishWaiting_idle (w : World) (indices : List Nat) (waiting : c.waiting = [])
    (running : c.running = []) :
    (finishWaiting p c w indices).1.waiting = [] ∧ (finishWaiting p c w indices).1.running = [] := by
  induction indices generalizing c w with
  | nil => exact ⟨waiting, running⟩
  | cons index rest ih =>
    rw [finishWaiting]
    split
    · exact ih _ waiting running
    · exact ih _ waiting running

theorem finish_idle (c : Crew) (w : World) :
    (c.finish p w).1.waiting = [] ∧ (c.finish p w).1.running = [] :=
  finishWaiting_idle _ _ rfl rfl

/-- Where each of the given tasks is. -/
structure Accounts (indices : List Nat) (c : Crew) : Prop where
  all : (c.waiting ++ c.running.map Prod.fst ++ c.ended.map TaskOutcome.index).Perm indices
  launched : ∀ i ∈ c.launched, i ∈ indices
  running : ∀ task ∈ c.running, task.1 ∈ c.launched ∧ task.2.Always fun o => o.index = task.1
  ended : ∀ o ∈ c.ended, o.index ∈ c.launched ∨ o = .failed o.index .cancelled

namespace Accounts

variable {indices : List Nat}

theorem ofIndices (indices : List Nat) : Accounts indices (Crew.ofIndices indices) where
  all := by simp [Crew.ofIndices]
  launched := by simp [Crew.ofIndices]
  running := by simp [Crew.ofIndices]
  ended := by simp [Crew.ofIndices]

theorem launch (h : Accounts indices c) (p : TaskPlan) (limit : Option Nat) (w : World) :
    Accounts indices (c.launch p limit w) := by
  cases hw : c.waiting with
  | nil => simpa only [Crew.launch, hw] using h
  | cons index rest =>
    have all := h.all
    rw [hw] at all
    have given : index ∈ indices := all.subset (by simp)
    simp only [Crew.launch, hw]
    by_cases stopped : w.isCancelled
    · rw [if_pos stopped]
      refine ⟨?_, h.launched, h.running, ?_⟩
      · refine List.Perm.trans ?_ all
        rw [List.perm_iff_count]
        intro a
        simp only [List.map_append, List.map_cons, List.map_nil, List.count_append,
          List.count_cons, List.count_nil, TaskOutcome.failed]
        omega
      · intro o ho
        rcases List.mem_append.mp ho with ho | ho
        · exact h.ended o ho
        · rw [List.mem_singleton.mp ho]
          exact .inr rfl
    · rw [if_neg stopped]
      by_cases room : limit.all (c.running.length < ·)
      · rw [if_pos room]
        refine ⟨?_, ?_, ?_, ?_⟩
        · refine List.Perm.trans ?_ all
          rw [List.perm_iff_count]
          intro a
          simp only [List.map_append, List.map_cons, List.map_nil, List.count_append,
            List.count_cons, List.count_nil]
          omega
        · intro i hi
          rcases List.mem_append.mp hi with hi | hi
          · exact h.launched i hi
          · rw [List.mem_singleton.mp hi]
            exact given
        · intro task ht
          rcases List.mem_append.mp ht with ht | ht
          · exact ⟨List.mem_append_left _ (h.running task ht).1, (h.running task ht).2⟩
          · rw [List.mem_singleton.mp ht]
            exact ⟨by simp, p.perform_index index⟩
        · intro o ho
          rcases h.ended o ho with launched | cancelled
          · exact .inl (List.mem_append_left _ launched)
          · exact .inr cancelled
      · rw [if_neg room]
        exact h

/-- A running task that ends takes its outcome with it. -/
theorem leave (h : Accounts indices c) {place : Nat} {task : Nat × Action TaskOutcome}
    (ht : c.running[place]? = some task) {o : TaskOutcome} (ho : o.index = task.1) :
    Accounts indices { c with
      running := c.running.eraseIdx place, ended := c.ended ++ [o] } := by
  obtain ⟨inside, rfl⟩ := List.getElem?_eq_some_iff.mp ht
  refine ⟨?_, h.launched, ?_, ?_⟩
  · refine List.Perm.trans ?_ h.all
    have erased := ((List.getElem_cons_eraseIdx_perm inside).map Prod.fst).symm
    rw [List.perm_iff_count] at erased ⊢
    intro a
    have counted := erased a
    simp only [List.map_cons, List.count_cons] at counted
    simp only [List.map_append, List.map_cons, List.map_nil, List.count_append, List.count_cons,
      List.count_nil, ho]
    omega
  · intro other hm
    exact h.running other (List.mem_of_mem_eraseIdx hm)
  · intro other hm
    rcases List.mem_append.mp hm with hm | hm
    · exact h.ended other hm
    · rw [List.mem_singleton.mp hm, ho]
      exact .inl (h.running _ (List.getElem_mem inside)).1

theorem step (h : Accounts indices c) (place : Nat) (w : World) :
    Accounts indices (c.step place w).1 := by
  unfold Crew.step
  split
  · exact h
  · rename_i index o ht
    exact h.leave ht (h.running _ (List.mem_of_getElem? ht)).2
  · rename_i index program _ ht
    have kept : (c.running.set place (index, (program.advance w).1)).map Prod.fst =
        c.running.map Prod.fst := by
      obtain ⟨inside, eq⟩ := List.getElem?_eq_some_iff.mp ht
      rw [List.map_set]
      apply List.ext_getElem
      · simp
      · intro i hi _
        by_cases hp : place = i
        · subst hp
          simp [eq]
        · simp [hp]
    have task := h.running _ (List.mem_of_getElem? ht)
    refine ⟨?_, h.launched, ?_, h.ended⟩
    · rw [kept]
      exact h.all
    · intro other hm
      rcases List.mem_or_eq_of_mem_set hm with hm | rfl
      · exact h.running other hm
      · refine ⟨task.1, ?_⟩
        cases program with
        | done o => exact task.2
        | step change next => exact task.2 w
        | ask q next => exact nomatch q

theorem crash (h : Accounts indices c) (place : Nat) (text : String) :
    Accounts indices (c.crash place text) := by
  unfold Crew.crash
  split
  · exact h
  · rename_i ht
    exact h.leave ht rfl

theorem follow (h : Accounts indices c) (p : TaskPlan) (limit : Option Nat) (w : World)
    (choice : Choice) : Accounts indices (c.follow p limit w choice).1 := by
  cases choice with
  | launch => exact h.launch p limit w
  | step place => exact h.step place w
  | crash place text => exact h.crash place text
  | stop => exact h

end Accounts

theorem insert_perm (o : TaskOutcome) (outcomes : List TaskOutcome) :
    (insert o outcomes).Perm (o :: outcomes) := by
  induction outcomes with
  | nil => exact .refl _
  | cons first rest ih =>
    rw [insert]
    split
    · exact .refl _
    · exact (ih.cons first).trans (.swap o first rest)

theorem outcomes_perm (c : Crew) : c.outcomes.Perm c.ended := by
  rw [outcomes]
  induction c.ended with
  | nil => exact .refl _
  | cons o rest ih => exact (insert_perm o _).trans (ih.cons o)

end Crew

/-- What is known of the tasks of a session when all of them have ended. -/
structure Served (indices : List Nat) (c : Crew) : Prop where
  all : (c.outcomes.map TaskOutcome.index).Perm indices
  launched : ∀ i ∈ c.launched, i ∈ indices
  cancelled : ∀ o ∈ c.outcomes, o.index ∈ c.launched ∨ o = .failed o.index .cancelled

/-- A session goes on from its schedule by further choices, in which no task dies and nobody asks for a
stop, until nothing waits or runs. -/
theorem Workers.serve_follows {p : TaskPlan} {limit : Option Nat} (room : limit.all (0 < ·))
    (indices : List Nat) (w : World) :
    ∃ more w', (∀ choice ∈ more, choice.IsPlain) ∧
      (Crew.ofIndices indices).followAll p limit w (w.schedule ++ more) =
        ((serve p limit indices w).1, w') ∧
      (serve p limit indices w).2 = { w' with
        metrics := (serve p limit indices w).1.ended.foldl (fun m o => count o m) w'.metrics } ∧
      (serve p limit indices w).1.waiting = [] ∧ (serve p limit indices w).1.running = [] := by
  obtain ⟨more, plain, finished⟩ := Crew.finish_follows (p := p) room
    ((Crew.ofIndices indices).followAll p limit w w.schedule).1
    ((Crew.ofIndices indices).followAll p limit w w.schedule).2
  refine ⟨more, _, plain, ?_, rfl, Crew.finish_idle _ _⟩
  rw [Crew.followAll_append, finished]
  rfl

/-- An invariant of single choices holds of a whole session, and in the end nothing waits or runs.
Tasks die, and a stop is asked for, only where the schedule says so. -/
theorem Workers.serve_invariant {I : Crew → World → Prop} {p : TaskPlan} {limit : Option Nat}
    (room : limit.all (0 < ·)) (indices : List Nat) (w : World) (start : I (.ofIndices indices) w)
    (step : ∀ c w' choice, (choice.IsPlain ∨ choice ∈ w.schedule) → I c w' →
      I (c.follow p limit w' choice).1 (c.follow p limit w' choice).2) :
    (serve p limit indices w).1.waiting = [] ∧ (serve p limit indices w).1.running = [] ∧
      ∃ w', I (serve p limit indices w).1 w' ∧
        (serve p limit indices w).2 = { w' with
          metrics := (serve p limit indices w).1.ended.foldl (fun m o => count o m) w'.metrics } := by
  obtain ⟨more, w', plain, followed, counted, waiting, running⟩ :=
    serve_follows (p := p) room indices w
  refine ⟨waiting, running, w', ?_, counted⟩
  have planned : ∀ choice ∈ w.schedule ++ more, choice.IsPlain ∨ choice ∈ w.schedule := by
    intro choice hm
    rcases List.mem_append.mp hm with hm | hm
    · exact .inr hm
    · exact .inl (plain choice hm)
  have all := @Crew.followAll_invariant p limit _ w I _
    (fun c w' choice hm => step c w' choice (planned choice hm)) start
  rwa [followed] at all

/-- Every given task is accounted for by exactly one outcome. -/
theorem Workers.serve_served {p : TaskPlan} {limit : Option Nat} (room : limit.all (0 < ·))
    (indices : List Nat) (w : World) : Served indices (serve p limit indices w).1 := by
  obtain ⟨waiting, running, _, accounts, -⟩ :=
    serve_invariant (p := p) (I := fun c _ => Crew.Accounts indices c) room indices w
      (.ofIndices indices) fun c w choice _ h => h.follow p limit w choice
  have all := accounts.all
  rw [waiting, running] at all
  refine ⟨((Crew.outcomes_perm _).map _).trans all, accounts.launched, ?_⟩
  intro o ho
  exact accounts.ended o ((Crew.outcomes_perm _).subset ho)

theorem ExecConfig.threads_room (e : ExecConfig) : e.threads.all (0 < ·) := by
  unfold threads
  cases e.maxThreads with
  | none => rfl
  | some n =>
    simp only [Option.map_some, Option.all_some, decide_eq_true_eq]
    omega

end BulkTransfer
