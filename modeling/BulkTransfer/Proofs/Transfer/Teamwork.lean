import BulkTransfer.Proofs.Transfer.Workers
import BulkTransfer.Proofs.World.Region
/-!
# Tasks side by side

When the tasks of a session have regions that are apart, what each of them ensures among others
holds of its outcome, whatever the schedule.
-/
namespace BulkTransfer

/-- A stop was asked for, or it will be. -/
def World.MayStop (w : World) : Prop := w.isCancelled = true ∨ Choice.stop ∈ w.schedule

/-- The tasks of a session with their regions, and what is known before and after each of them. -/
structure Team (p : TaskPlan) (indices : List Nat) where
  region : Nat → Region
  pre : Nat → Disk → Prop
  post : Nat → TaskOutcome → Disk → Prop
  distinct : indices.Nodup
  apart : ∀ i ∈ indices, ∀ j ∈ indices, i ≠ j →
    ∀ l, (region i).reach l → ¬ (region j).own l ∧ ¬ (region j).read l
  pre_stable : ∀ i, (region i).Stable (pre i)
  post_stable : ∀ i o, (region i).Stable (post i o)
  perform : ∀ i ∈ indices, ∀ d, pre i d → (p.perform i).Ensures (region i) (post i) d

namespace Team

variable {p : TaskPlan} {indices : List Nat} {c : Crew} {w : World}

/-- What holds of the tasks at every moment. -/
structure Working (t : Team p indices) (start : World) (c : Crew) (w : World) : Prop where
  accounts : Crew.Accounts indices c
  waiting : ∀ i ∈ c.waiting, t.pre i w.disk
  running : ∀ (k : Nat) (task : Nat × Action TaskOutcome), c.running[k]? = some task →
    task.2.Ensures (t.region task.1) (t.post task.1) w.disk
  ended : ∀ o ∈ c.ended, t.post o.index o w.disk
  frame : start.disk.AgreesOn (fun l => ∀ i ∈ indices, ¬ (t.region i).reach l) w.disk
  sized : ∀ i ∈ indices, w.pool.pageSize = (t.region i).pageSize
  stopped : w.isCancelled = true → start.MayStop

namespace Working

variable {t : Team p indices} {start : World}

theorem given_waiting (h : t.Working start c w) {i : Nat} (hi : i ∈ c.waiting) : i ∈ indices :=
  h.accounts.all.subset (by simp [hi])

theorem given_running (h : t.Working start c w) {task : Nat × Action TaskOutcome}
    (ht : task ∈ c.running) : task.1 ∈ indices :=
  h.accounts.launched _ (h.accounts.running task ht).1

theorem given_ended (h : t.Working start c w) {o : TaskOutcome} (ho : o ∈ c.ended) :
    o.index ∈ indices :=
  h.accounts.all.subset (by
    rw [List.mem_append]
    exact .inr (List.mem_map_of_mem ho))

theorem nodup (h : t.Working start c w) :
    (c.waiting ++ c.running.map Prod.fst ++ c.ended.map TaskOutcome.index).Nodup :=
  h.accounts.all.nodup_iff.mpr t.distinct

/-- A step of one task spares the regions of the others. -/
theorem spares (_ : t.Working start c w) {i j : Nat} (hi : i ∈ indices) (hj : j ∈ indices)
    (other : i ≠ j) {d d' : Disk} (keeps : (t.region i).Keeps d d') : (t.region j).Spared d d' := by
  refine keeps.mono fun l hl reach => ?_
  obtain ⟨owned, read⟩ := t.apart i hi j hj other l reach
  rcases hl with hl | hl
  · exact owned hl
  · exact read hl

theorem launch (h : t.Working start c w) (limit : Option Nat)
    (cancels : start.MayStop → ∀ i ∈ indices, ∀ d, t.pre i d → t.post i (.failed i .cancelled) d) :
    t.Working start (c.launch p limit w) w := by
  have accounts := h.accounts.launch p limit w
  cases hw : c.waiting with
  | nil => simpa only [Crew.launch, hw] using h
  | cons index rest =>
    have given := h.given_waiting (i := index) (by simp [hw])
    have before := h.waiting index (by simp [hw])
    have later : ∀ i ∈ rest, t.pre i w.disk := fun i hi => h.waiting i (by simp [hw, hi])
    simp only [Crew.launch, hw] at accounts ⊢
    by_cases stopped : w.isCancelled
    · rw [if_pos stopped] at accounts ⊢
      refine ⟨accounts, later, h.running, ?_, h.frame, h.sized, h.stopped⟩
      intro o ho
      rcases List.mem_append.mp ho with ho | ho
      · exact h.ended o ho
      · rw [List.mem_singleton.mp ho]
        exact cancels (h.stopped stopped) index given _ before
    · rw [if_neg stopped] at accounts ⊢
      by_cases room : limit.all (c.running.length < ·)
      · rw [if_pos room] at accounts ⊢
        refine ⟨accounts, later, ?_, h.ended, h.frame, h.sized, h.stopped⟩
        intro k task hk
        by_cases inside : k < c.running.length
        · rw [List.getElem?_append_left inside] at hk
          exact h.running k task hk
        · rw [List.getElem?_append_right (Nat.not_lt.mp inside)] at hk
          rw [List.mem_singleton.mp (List.mem_of_getElem? hk)]
          exact t.perform index given _ before
      · rw [if_neg room]
        exact h

/-- A running task that ends leaves its outcome, and the others as they are. -/
theorem leave (h : t.Working start c w) {place : Nat} {o : TaskOutcome}
    (accounts : Crew.Accounts indices { c with
      running := c.running.eraseIdx place, ended := c.ended ++ [o] })
    (ho : t.post o.index o w.disk) :
    t.Working start { c with running := c.running.eraseIdx place, ended := c.ended ++ [o] } w := by
  refine ⟨accounts, h.waiting, ?_, ?_, h.frame, h.sized, h.stopped⟩
  · intro k task hk
    obtain ⟨n, hn⟩ := List.getElem?_of_mem (List.mem_of_mem_eraseIdx (List.mem_of_getElem? hk))
    exact h.running n task hn
  · intro other hm
    rcases List.mem_append.mp hm with hm | hm
    · exact h.ended other hm
    · rw [List.mem_singleton.mp hm]
      exact ho

/-- The indices of running tasks differ, and differ from those of the tasks that wait or have
ended. -/
theorem index_ne (h : t.Working start c w) {place k : Nat} {task other : Nat × Action TaskOutcome}
    (ht : c.running[place]? = some task) (ho : c.running[k]? = some other) (ne : place ≠ k) :
    task.1 ≠ other.1 := by
  have nodup := (List.nodup_append.mp (List.nodup_append.mp h.nodup).1).2.1
  intro same
  have inside : place < (c.running.map Prod.fst).length := by
    rw [List.length_map]
    exact (List.getElem?_eq_some_iff.mp ht).1
  refine ne ((List.getElem?_inj inside nodup).mp ?_)
  rw [List.getElem?_map, List.getElem?_map, ht, ho, Option.map_some, Option.map_some, same]

theorem step (h : t.Working start c w) (place : Nat) :
    t.Working start (c.step place w).1 (c.step place w).2 := by
  have accounts := h.accounts.step place w
  unfold Crew.step at accounts ⊢
  split
  · exact h
  · rename_i index o ht
    have same := (h.accounts.running _ (List.mem_of_getElem? ht)).2
    have ends : t.post index o w.disk := h.running place _ ht
    simp only [ht] at accounts
    refine h.leave accounts ?_
    rwa [show o.index = index from same]
  · rename_i index program active ht
    have given := h.given_running (List.mem_of_getElem? ht)
    have ensured := h.running place _ ht
    cases program with
    | done o => exact absurd rfl (active o)
    | ask q next => exact nomatch q
    | step change next =>
      obtain ⟨keeps, terms, rest⟩ := ensured w (.refl _ _) (h.sized index given)
      simp only [ht, Program.advance] at accounts ⊢
      have nodup := h.nodup
      refine ⟨accounts, ?_, ?_, ?_, ?_, ?_, ?_⟩
      · intro i hi
        have other : index ≠ i := by
          rintro rfl
          exact (List.nodup_append.mp (List.nodup_append.mp nodup).1).2.2 _ hi _
            (List.mem_map_of_mem (List.mem_of_getElem? ht)) rfl
        exact t.pre_stable i _ _ (h.spares given (h.given_waiting hi) other keeps) (h.waiting i hi)
      · intro k task hk
        by_cases here : place = k
        · subst here
          rw [List.getElem?_set_self (List.getElem?_eq_some_iff.mp ht).1, Option.some.injEq] at hk
          subst hk
          exact rest
        · rw [List.getElem?_set_ne here] at hk
          have other := h.index_ne ht hk here
          exact (h.running k task hk).spared
            (h.spares given (h.given_running (List.mem_of_getElem? hk)) other keeps)
            (t.post_stable task.1)
      · intro o ho
        have other : index ≠ o.index := by
          intro same
          refine (List.nodup_append.mp nodup).2.2 _ ?_ _ (List.mem_map_of_mem ho) same
          rw [List.mem_append]
          exact .inr (List.mem_map_of_mem (List.mem_of_getElem? ht))
        exact t.post_stable _ _ _ _ (h.spares given (h.given_ended ho) other keeps) (h.ended o ho)
      · exact h.frame.trans (keeps.mono fun l hl => hl index given)
      · exact fun i hi => terms.pageSize.trans (h.sized i hi)
      · exact fun stopped => h.stopped (terms.stop.symm.trans stopped)

theorem crash (h : t.Working start c w) (place : Nat) {text : String}
    (tolerates : ∀ i d, t.post i (.failed i (.panicked text)) d) :
    t.Working start (c.crash place text) w := by
  have accounts := h.accounts.crash place text
  unfold Crew.crash at accounts ⊢
  split
  · exact h
  · rename_i index program ht
    simp only [ht] at accounts
    exact h.leave accounts (tolerates index _)

theorem follow (h : t.Working start c w) (limit : Option Nat) (choice : Choice)
    (cancels : start.MayStop → ∀ i ∈ indices, ∀ d, t.pre i d → t.post i (.failed i .cancelled) d)
    (stops : choice = .stop → start.MayStop)
    (tolerates : ∀ place text, choice = .crash place text →
      ∀ i d, t.post i (.failed i (.panicked text)) d) :
    t.Working start (c.follow p limit w choice).1 (c.follow p limit w choice).2 := by
  cases choice with
  | launch => exact h.launch limit cancels
  | step place => exact h.step place
  | crash place text => exact h.crash place (tolerates place text rfl)
  | stop =>
    exact ⟨h.accounts, h.waiting, h.running, h.ended, h.frame, h.sized, fun _ => stops rfl⟩

end Working

/-- However the tasks of a session are scheduled, each of them ends as it ensures, and nothing changes
outside their regions. Cancelled tasks and panics have to be tolerated only where there can be any. -/
theorem serve (t : Team p indices) {limit : Option Nat} (room : limit.all (0 < ·))
    (before : ∀ i ∈ indices, t.pre i w.disk)
    (sized : ∀ i ∈ indices, w.pool.pageSize = (t.region i).pageSize)
    (cancels : w.MayStop → ∀ i ∈ indices, ∀ d, t.pre i d → t.post i (.failed i .cancelled) d)
    (tolerates : (∃ choice ∈ w.schedule, choice.IsCrash) →
      ∀ i text d, t.post i (.failed i (.panicked text)) d) :
    (∀ o ∈ (Workers.serve p limit indices w).1.outcomes,
        t.post o.index o (Workers.serve p limit indices w).2.disk) ∧
      w.disk.AgreesOn (fun l => ∀ i ∈ indices, ¬ (t.region i).reach l)
        (Workers.serve p limit indices w).2.disk := by
  have start : t.Working w (.ofIndices indices) w :=
    ⟨.ofIndices indices, before, by simp [Crew.ofIndices], by simp [Crew.ofIndices], .refl _ _, sized,
      .inl⟩
  have planned : ∀ choice : Choice, choice.IsPlain ∨ choice ∈ w.schedule → ¬ choice.IsPlain →
      choice ∈ w.schedule := fun choice known rare => known.resolve_left rare
  obtain ⟨-, -, w', working, same⟩ := Workers.serve_invariant room indices w start
    fun c w' choice known h => h.follow limit choice cancels
      (fun stop => .inr (stop ▸ planned choice known (stop ▸ id)))
      fun place text crash i d =>
        tolerates ⟨choice, planned choice known (crash ▸ id), crash ▸ trivial⟩ i text d
  rw [same]
  refine ⟨fun o ho => ?_, working.frame⟩
  exact working.ended o ((Crew.outcomes_perm _).subset ho)

end Team

end BulkTransfer
