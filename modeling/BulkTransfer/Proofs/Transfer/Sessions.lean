import BulkTransfer.Proofs.Transfer.Workers
import Mathlib.Data.List.Induction
/-!
# Sessions of tasks

At every moment of a session no more tasks run than may. The tasks that are launched come first in the
line, each is waited for, and its outcome is the one that it left with; the others are cancelled, since
a stop that was asked for stays so.
-/
namespace BulkTransfer

namespace Program

variable {Q R α : Type}

/-- Every step of a program changes the world as allowed. -/
def Steps (allowed : World → World → Prop) : Program Q R α → Prop
  | .done _ => True
  | .step change next => ∀ w, allowed w (change w) ∧ (next w).Steps allowed
  | .ask _ next => ∀ r, (next r).Steps allowed

/-- What may be left of an action after some steps, in whatever worlds they are taken. -/
inductive Becomes : Action α → Action α → Prop where
  | refl (p : Action α) : Becomes p p
  | step {p : Action α} {change : World → World} {next : World → Action α} (w : World) :
      Becomes p (.step change next) → Becomes p (next w)

theorem Steps.becomes {allowed : World → World → Prop} {p q : Action α} (h : p.Steps allowed)
    (becomes : p.Becomes q) : q.Steps allowed := by
  induction becomes with
  | refl => exact h
  | step w _ ih => exact (ih w).2

end Program

/-- Tasks do not withdraw a stop, nor do they count themselves. -/
structure World.GoesOn (w w' : World) : Prop where
  stopped : w.isCancelled = true → w'.isCancelled = true
  committed : w'.metrics.committed = w.metrics.committed
  failed : w'.metrics.failed = w.metrics.failed

theorem World.GoesOn.refl (w : World) : w.GoesOn w := ⟨id, rfl, rfl⟩

theorem World.GoesOn.trans {w w' w'' : World} (h : w.GoesOn w') (h' : w'.GoesOn w'') :
    w.GoesOn w'' :=
  ⟨fun stopped => h'.stopped (h.stopped stopped), h'.committed.trans h.committed,
    h'.failed.trans h.failed⟩

namespace Crew

variable {p : TaskPlan} {limit : Option Nat} {indices : List Nat} {w : World}
  {choices : List Choice} {c : Crew} {w' : World}

/-- Where a session stands after some choices. -/
def after (p : TaskPlan) (limit : Option Nat) (indices : List Nat) (w : World)
    (choices : List Choice) : Crew × World :=
  (ofIndices indices).followAll p limit w choices

theorem after_append (choice : Choice) : after p limit indices w (choices ++ [choice]) =
    (after p limit indices w choices).1.follow p limit (after p limit indices w choices).2 choice :=
  followAll_append _ _ _ _

/-- A task is left by its own program with this outcome, or it dies where it is. -/
def Leaves (p : TaskPlan) (limit : Option Nat) (indices : List Nat) (w : World)
    (choices : List Choice) (o : TaskOutcome) : Prop :=
  ∃ before place rest,
    (after p limit indices w before).1.running[place]? = some (o.index, rest) ∧
      (p.perform o.index).Becomes rest ∧
        (rest = .done o ∧ before ++ [.step place] <+: choices ∨
          ∃ text, o = .failed o.index (.panicked text) ∧
            before ++ [.crash place text] <+: choices)

theorem Leaves.later {o : TaskOutcome} (h : Leaves p limit indices w choices o)
    (more : List Choice) : Leaves p limit indices w (choices ++ more) o := by
  obtain ⟨before, place, rest, running, becomes, left⟩ := h
  refine ⟨before, place, rest, running, becomes, ?_⟩
  rcases left with ⟨done, past⟩ | ⟨text, died, past⟩
  · exact .inl ⟨done, past.trans (List.prefix_append _ _)⟩
  · exact .inr ⟨text, died, past.trans (List.prefix_append _ _)⟩

/-- What holds at every moment of a session. -/
structure InLine (p : TaskPlan) (n : Nat) (indices : List Nat) (w : World) (choices : List Choice)
    (c : Crew) (w' : World) : Prop where
  accounts : Accounts indices c
  room : c.running.length ≤ n
  line : ∃ skipped, c.launched ++ skipped ++ c.waiting = indices ∧
    (skipped ≠ [] → w'.isCancelled = true)
  running : ∀ task ∈ c.running, (p.perform task.1).Becomes task.2
  ended : ∀ o ∈ c.ended, o.index ∈ c.launched → Leaves p (some n) indices w choices o
  goesOn : w.GoesOn w'

namespace InLine

variable {n : Nat}

theorem ofIndices : InLine p n indices w [] (.ofIndices indices) w where
  accounts := .ofIndices indices
  room := Nat.zero_le n
  line := ⟨[], rfl, fun h => absurd rfl h⟩
  running := by simp [Crew.ofIndices]
  ended := by simp [Crew.ofIndices]
  goesOn := .refl w

theorem later (h : InLine p n indices w choices c w') (choice : Choice) :
    InLine p n indices w (choices ++ [choice]) c w' :=
  { h with ended := fun o ho launched => (h.ended o ho launched).later _ }

theorem waiting_fresh (h : InLine p n indices w choices c w') (distinct : indices.Nodup) {i : Nat}
    (hi : i ∈ c.waiting) : i ∉ c.launched ∧ ∀ o ∈ c.ended, o.index ≠ i := by
  constructor
  · obtain ⟨skipped, line, -⟩ := h.line
    intro launched
    rw [← line] at distinct
    exact (List.nodup_append.mp distinct).2.2 i (List.mem_append_left _ launched) i hi rfl
  · intro o ho same
    have nodup := h.accounts.all.nodup_iff.mpr distinct
    refine (List.nodup_append.mp nodup).2.2 i (List.mem_append_left _ hi) o.index ?_ same.symm
    exact List.mem_map_of_mem ho

theorem launch (h : InLine p n indices w choices c w') (distinct : indices.Nodup) :
    InLine p n indices w (choices ++ [.launch]) (c.launch p (some n) w') w' := by
  have accounts := h.accounts.launch p (some n) w'
  cases hw : c.waiting with
  | nil => simpa only [Crew.launch, hw] using h.later .launch
  | cons index rest =>
    obtain ⟨skipped, line, stopped⟩ := h.line
    obtain ⟨unlaunched, others⟩ := h.waiting_fresh distinct (i := index) (by simp [hw])
    simp only [Crew.launch, hw] at accounts ⊢
    by_cases cancelled : w'.isCancelled
    · rw [if_pos cancelled] at accounts ⊢
      refine ⟨accounts, h.room, ⟨skipped ++ [index], ?_, fun _ => cancelled⟩, h.running, ?_,
        h.goesOn⟩
      · rw [← line, hw]
        simp
      · intro o ho launched
        rcases List.mem_append.mp ho with ho | ho
        · exact (h.ended o ho launched).later _
        · rw [List.mem_singleton.mp ho] at launched
          exact absurd launched unlaunched
    · rw [if_neg cancelled] at accounts ⊢
      by_cases room : (some n).all (c.running.length < ·)
      · rw [if_pos room] at accounts ⊢
        obtain rfl : skipped = [] := by
          by_contra some
          exact cancelled (stopped some)
        refine ⟨accounts, ?_, ⟨[], ?_, fun h => absurd rfl h⟩, ?_, ?_, h.goesOn⟩
        · rw [List.length_append, List.length_singleton]
          exact of_decide_eq_true room
        · rw [← line, hw]
          simp
        · intro task ht
          rcases List.mem_append.mp ht with ht | ht
          · exact h.running task ht
          · rw [List.mem_singleton.mp ht]
            exact .refl _
        · intro o ho launched
          rcases List.mem_append.mp launched with launched | new
          · exact (h.ended o ho launched).later _
          · exact absurd (List.mem_singleton.mp new) (others o ho)
      · rw [if_neg room]
        exact h.later .launch

/-- A running task that ends takes the outcome with it that it leaves with. -/
theorem leave (h : InLine p n indices w choices c w') {place : Nat}
    {task : Nat × Action TaskOutcome} (ht : c.running[place]? = some task) {o : TaskOutcome}
    (ho : o.index = task.1) {choice : Choice}
    (left : Leaves p (some n) indices w (choices ++ [choice]) o) :
    InLine p n indices w (choices ++ [choice])
      { c with running := c.running.eraseIdx place, ended := c.ended ++ [o] } w' := by
  refine ⟨h.accounts.leave ht ho, ?_, h.line, ?_, ?_, h.goesOn⟩
  · have inside := (List.getElem?_eq_some_iff.mp ht).1
    have room := h.room
    rw [List.length_eraseIdx_of_lt inside]
    omega
  · intro other hm
    exact h.running other (List.mem_of_mem_eraseIdx hm)
  · intro other hm launched
    rcases List.mem_append.mp hm with hm | hm
    · exact (h.ended other hm launched).later _
    · rw [List.mem_singleton.mp hm]
      exact left

theorem step (h : InLine p n indices w choices c w') (place : Nat)
    (here : after p (some n) indices w choices = (c, w'))
    (orderly : ∀ i ∈ indices, (p.perform i).Steps World.GoesOn) :
    InLine p n indices w (choices ++ [.step place]) (c.step place w').1 (c.step place w').2 := by
  have accounts := h.accounts.step place w'
  rcases step_cases c place w' with ⟨-, stays⟩ | ⟨index, o, ht, ends⟩ | ⟨index, change, next, ht, goes⟩
  · rw [stays]
    exact h.later _
  · rw [ends]
    have task := List.mem_of_getElem? ht
    have own : o.index = index := (h.accounts.running _ task).2
    refine h.leave ht own ⟨choices, place, .done o, ?_, ?_, .inl ⟨rfl, List.prefix_refl _⟩⟩
    · rw [here, own]
      exact ht
    · rw [own]
      exact h.running _ task
  · rw [goes] at accounts ⊢
    have task := List.mem_of_getElem? ht
    have becomes := h.running _ task
    have given := h.accounts.launched _ (h.accounts.running _ task).1
    have allowed := ((orderly index given).becomes becomes w').1
    obtain ⟨skipped, line, stopped⟩ := h.line
    refine ⟨accounts, ?_, ⟨skipped, line, fun some => allowed.stopped (stopped some)⟩, ?_, ?_,
      h.goesOn.trans allowed⟩
    · rw [List.length_set]
      exact h.room
    · intro other hm
      rcases List.mem_or_eq_of_mem_set hm with hm | rfl
      · exact h.running other hm
      · exact .step w' becomes
    · exact fun o ho launched => (h.ended o ho launched).later _

theorem crash (h : InLine p n indices w choices c w') (place : Nat) (text : String)
    (here : after p (some n) indices w choices = (c, w')) :
    InLine p n indices w (choices ++ [.crash place text]) (c.crash place text) w' := by
  unfold Crew.crash
  split
  · exact h.later _
  · rename_i index rest ht
    refine h.leave ht rfl ⟨choices, place, rest, ?_, ?_, .inr ⟨text, rfl, List.prefix_refl _⟩⟩
    · rw [here]
      exact ht
    · exact h.running _ (List.mem_of_getElem? ht)

/-- What holds at the start and through every choice holds at every moment. -/
theorem after (p : TaskPlan) (n : Nat) (w : World) (distinct : indices.Nodup)
    (orderly : ∀ i ∈ indices, (p.perform i).Steps World.GoesOn) (choices : List Choice) :
    InLine p n indices w choices (Crew.after p (some n) indices w choices).1
      (Crew.after p (some n) indices w choices).2 := by
  induction choices using List.reverseRecOn with
  | nil => exact ofIndices
  | append_singleton choices choice ih =>
    rw [after_append]
    cases choice with
    | launch => exact ih.launch distinct
    | step place => exact ih.step place rfl orderly
    | crash place text => exact ih.crash place text rfl
    | stop =>
      have later := ih.later .stop
      obtain ⟨skipped, line, -⟩ := ih.line
      exact ⟨later.accounts, later.room, ⟨skipped, line, fun _ => rfl⟩, later.running, later.ended,
        ih.goesOn.trans ⟨fun _ => rfl, rfl, rfl⟩⟩

end InLine

theorem insert_ascending {o : TaskOutcome} {outcomes : List TaskOutcome}
    (h : outcomes.Pairwise fun a b => a.index ≤ b.index) :
    (insert o outcomes).Pairwise fun a b => a.index ≤ b.index := by
  induction outcomes with
  | nil => exact List.pairwise_singleton _ _
  | cons first rest ih =>
    obtain ⟨least, sorted⟩ := List.pairwise_cons.mp h
    rw [insert]
    split
    · rename_i le
      refine List.pairwise_cons.mpr ⟨fun other hm => ?_, h⟩
      rcases List.mem_cons.mp hm with rfl | hm
      · exact le
      · exact Nat.le_trans le (least other hm)
    · rename_i gt
      refine List.pairwise_cons.mpr ⟨fun other hm => ?_, ih sorted⟩
      rcases List.mem_cons.mp ((insert_perm o rest).subset hm) with rfl | hm
      · omega
      · exact least other hm

theorem outcomes_ascending (c : Crew) : c.outcomes.Pairwise fun a b => a.index ≤ b.index := by
  rw [outcomes]
  induction c.ended with
  | nil => exact .nil
  | cons o rest ih => exact insert_ascending ih

end Crew

namespace Workers

/-- Where outcomes are told by their indices, so is what a session ends with. -/
theorem serve_outcomes {p : TaskPlan} {limit : Option Nat} (room : limit.all (0 < ·)) {indices : List Nat}
    {w : World} (ascending : indices.Pairwise (· < ·)) {f : Nat → TaskOutcome}
    (each : ∀ o ∈ (serve p limit indices w).1.outcomes, o = f o.index) :
    (serve p limit indices w).1.outcomes = indices.map f := by
  have sorted := List.pairwise_map.mpr (serve p limit indices w).1.outcomes_ascending
  have same : (serve p limit indices w).1.outcomes.map TaskOutcome.index = indices :=
    (serve_served room indices w).all.eq_of_pairwise (fun _ _ _ _ => Nat.le_antisymm) sorted
      (ascending.imp Nat.le_of_lt)
  calc (serve p limit indices w).1.outcomes
    _ = (serve p limit indices w).1.outcomes.map fun o => f o.index :=
      (List.map_id'' (fun _ => rfl) _).symm.trans (List.map_congr_left each)
    _ = ((serve p limit indices w).1.outcomes.map TaskOutcome.index).map f := List.map_map.symm
    _ = indices.map f := by rw [same]

theorem count_total (outcomes : List TaskOutcome) (m : Metrics) :
    (outcomes.foldl (fun m o => count o m) m).committed =
        m.committed + outcomes.countP TaskOutcome.isCommitted ∧
      (outcomes.foldl (fun m o => count o m) m).failed =
        m.failed + outcomes.countP (!·.isCommitted) := by
  induction outcomes generalizing m with
  | nil => exact ⟨rfl, rfl⟩
  | cons o rest ih =>
    obtain ⟨committed, failed⟩ := ih (count o m)
    rw [List.foldl_cons, committed, failed, List.countP_cons, List.countP_cons, count]
    cases o.isCommitted
    · exact ⟨by simp, by simp; omega⟩
    · exact ⟨by simp; omega, by simp⟩

/-- How a session of given tasks goes that runs so many of them at a time. -/
structure Accounted (p : TaskPlan) (n : Nat) (indices : List Nat) (w : World) (c : Crew)
    (w' : World) : Prop where
  one_each : (c.outcomes.map TaskOutcome.index).Perm indices
  ascending : (c.outcomes.map TaskOutcome.index).Pairwise (· < ·)
  awaited : c.waiting = [] ∧ c.running = []
  in_front : c.launched <+: indices
  others : ∀ i ∈ indices, i ∉ c.launched → .failed i .cancelled ∈ c.outcomes
  moments : ∃ choices, w.schedule <+: choices ∧ (Crew.after p (some n) indices w choices).1 = c ∧
    (∀ moment, moment <+: choices →
      (Crew.after p (some n) indices w moment).1.running.length ≤ n) ∧
    ∀ o ∈ c.outcomes, o.index ∈ c.launched → Crew.Leaves p (some n) indices w choices o
  committed : w'.metrics.committed =
    w.metrics.committed + c.outcomes.countP TaskOutcome.isCommitted
  total : w'.metrics.committed + w'.metrics.failed =
    w.metrics.committed + w.metrics.failed + indices.length

/-- Tasks that leave a note each. The second one then has nothing to read. -/
def noting : TaskPlan where
  input := {
    transaction := fun _ => .finish (.ok Document.empty)
    resume := fun _ _ _ => .finish (.ok Document.empty)
    cleanup := fun _ _ _ _ => .done (.ok ())
    run := fun _ _ index => (Program.note (some index) "run").andThen fun _ =>
      .done (if index = 2 then .error (.failed (.other "nothing to read")) else .ok Document.empty) }
  inputTask := Document.empty
  inputSchema := ⟨[], by decide⟩
  filters := []
  output := {
    transaction := fun _ _ _ => .finish (.ok Document.empty)
    resume := fun _ _ _ => .finish (.ok Document.empty)
    cleanup := fun _ _ _ _ => .done (.ok ())
    openTask := fun _ _ _ => .ok ⟨Unit, ⟨pure (), fun _ => pure (), pure (), pure Document.empty,
      pure (), pure ()⟩, ()⟩ }
  outputTask := Document.empty
  outputSchema := ⟨[], by decide⟩

end Workers

end BulkTransfer
