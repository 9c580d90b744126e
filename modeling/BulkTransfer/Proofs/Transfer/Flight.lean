import BulkTransfer.Proofs.Plugin.Opening
import BulkTransfer.Proofs.Transfer.Progress
import BulkTransfer.Proofs.Transfer.Workers
import BulkTransfer.Transfer.Executor
/-!
# What a flight leaves behind

The transactions of a transfer are whatever its plugins make of them, but each calls its control at
most once, so the tasks run at most once. From the slots that a flight starts with follows what its
slots, its events and its reports are in the end.
-/
namespace BulkTransfer

namespace Executor

variable {α β : Type} {t : Flight}

/-- From this world, the computation ends like this. -/
def Leads (m : Flying α) (t : Flight) (w : World) (P : α → Flight → World → Prop) : Prop :=
  P ((m t).run w).1.1 ((m t).run w).1.2 ((m t).run w).2

namespace Leads

variable {w : World} {P : α → Flight → World → Prop} {S : β → Flight → World → Prop}

theorem pure {a : α} (h : P a t w) : Leads (Pure.pure a) t w P := h

theorem bind {m : Flying α} {f : α → Flying β} (h : Leads m t w P)
    (hf : ∀ a t' w', P a t' w' → Leads (f a) t' w' S) : Leads (m >>= f) t w S := by
  have second := hf _ _ _ h
  unfold Leads
  change S ((Program.andThen (m t) fun x => f x.1 x.2).run w).1.1
    ((Program.andThen (m t) fun x => f x.1 x.2).run w).1.2
    ((Program.andThen (m t) fun x => f x.1 x.2).run w).2
  rw [Program.run_andThen]
  exact second

theorem get_bind {f : Flight → Flying β} (h : Leads (f t) t w S) : Leads (get >>= f) t w S := h

theorem modify_bind {g : Flight → Flight} {f : Unit → Flying β} (h : Leads (f ()) (g t) w S) :
    Leads (modify g >>= f) t w S := h

theorem mono {m : Flying α} {S : α → Flight → World → Prop} (h : Leads m t w P)
    (hp : ∀ a t' w', P a t' w' → S a t' w') : Leads m t w S := hp _ _ _ h

/-- A transaction that opens either gives up, or asks its control and turns the answer into its
result. -/
theorem drive {Q R : Type} {tran : Transaction Q R α} {control : Q → Flying (Attempt R)}
    {P : Q → (R → Attempt α) → Prop} {S : Attempt α → Flight → World → Prop}
    (opens : tran.Opens w.disk P)
    (failed : ∀ e d, w.disk.GrowsTo d → tran.opened w.disk = none →
      S (.error e) t { w with disk := d })
    (called : ∀ q f d, P q f → w.disk.GrowsTo d → tran.opened w.disk = some (q, d) →
      Leads (control q) t { w with disk := d } fun r t' w' => S (r.bind f) t' w') :
    Leads (tran.drive control) t w S := by
  obtain ⟨event, d, grows, ran, ends⟩ := opens
  refine bind (P := fun event t' w' => event = (tran.run w).1 ∧ t' = t ∧ w' = (tran.run w).2)
    ?_ ?_
  · unfold Leads
    change ((Program.andThen tran fun a => .done (a, t)).run w).1.1 = _ ∧
      ((Program.andThen tran fun a => .done (a, t)).run w).1.2 = _ ∧
      ((Program.andThen tran fun a => .done (a, t)).run w).2 = _
    rw [Program.run_andThen]
    exact ⟨rfl, rfl, rfl⟩
  · rintro _ _ _ ⟨rfl, rfl, rfl⟩
    rw [ran w rfl]
    rcases ends with ⟨e, rfl⟩ | ⟨q, f, resume, rfl, hp, answers⟩
    · exact failed e d grows (by rw [Transaction.opened, ran (.ofDisk w.disk) rfl])
    · refine bind (called q f d hp grows (by rw [Transaction.opened, ran (.ofDisk w.disk) rfl]))
        fun r t' w' h => ?_
      rw [answers]
      exact h

end Leads

/-- Whatever the world, the computation ends like this. -/
def Yields (m : Flying α) (t : Flight) (P : α → Flight → Prop) : Prop :=
  ∀ w, Leads m t w fun a t' _ => P a t'

namespace Yields

theorem pure {a : α} {P : α → Flight → Prop} (h : P a t) :
    Yields (Pure.pure a) t P := fun _ => h

theorem bind {m : Flying α} {f : α → Flying β} {P : α → Flight → Prop} {S : β → Flight → Prop}
    (h : Yields m t P) (hf : ∀ a t', P a t' → Yields (f a) t' S) : Yields (m >>= f) t S :=
  fun w => Leads.bind (h w) fun a t' w' first => hf a t' first w'

theorem get_bind {f : Flight → Flying β} {S : β → Flight → Prop} (h : Yields (f t) t S) :
    Yields (get >>= f) t S := h

theorem modify_bind {g : Flight → Flight} {f : Unit → Flying β} {S : β → Flight → Prop}
    (h : Yields (f ()) (g t) S) : Yields (modify g >>= f) t S := h

theorem mono {m : Flying α} {P S : α → Flight → Prop} (h : Yields m t P)
    (hp : ∀ a t', P a t' → S a t') : Yields m t S := fun w => hp _ _ (h w)

theorem action {p : Action α} {P : α → Flight → Prop} (h : ∀ a, P a t) :
    Yields (liftM p) t P := by
  intro w
  change P ((Program.andThen p fun a => .done (a, t)).run w).1.1
    ((Program.andThen p fun a => .done (a, t)).run w).1.2
  rw [Program.run_andThen]
  exact h _

/-- A transaction touches the flight through its control alone, and that at most once. -/
theorem drive {Q R : Type} {tran : Transaction Q R α} {control : Q → Flying (Attempt R)}
    {P : Flight → Prop} (idle : P t) (called : ∀ q, Yields (control q) t fun _ t' => P t') :
    Yields (tran.drive control) t fun _ t' => P t' := by
  refine bind (P := fun _ t' => t' = t) (action fun _ => rfl) ?_
  rintro event _ rfl
  cases event with
  | finished a => exact pure idle
  | called q resume => exact bind (called q) fun r t' h => action fun _ => h

end Yields

end Executor

namespace Flight

/-- No task has been launched yet, and the slots are these. -/
structure Ready (slots : List TaskSlot) (t : Flight) : Prop where
  slots_eq : t.progress.slots = slots
  count : t.progress.taskCount = slots.length
  unstarted : t.progress.hasStarted = false
  events : t.events = []

/-- The tasks are done with, or were never reached, after a start with these slots. -/
structure Settled (slots : List TaskSlot) (t : Flight) : Prop where
  length : t.progress.slots.length = slots.length
  count : t.progress.taskCount = slots.length
  kept : ∀ (i : Nat) (slot : TaskSlot), slots[i]? = some slot → slot.isCommitted = true →
    t.progress.slots[i]? = some slot ∧ .launched i ∉ t.events
  recorded : ∀ o, .ended o ∈ t.events →
    t.progress.slots[o.index]? = some ⟨o.inputReport, o.outputReport, o.error⟩
  reported : ∀ phase reports, .reported phase reports ∈ t.events →
    t.progress.slots.map (Progress.side phase) = reports.map some
  served : t.progress.hasStarted = true → ∀ (i : Nat) (slot : TaskSlot), slots[i]? = some slot →
    slot.isCommitted = false → (∃ o, .ended o ∈ t.events ∧ o.index = i) ∧
      (.launched i ∈ t.events ∨ .ended (.failed i .cancelled) ∈ t.events)
  idle : t.progress.hasStarted = false → t.progress.slots = slots ∧ ∀ o, .ended o ∉ t.events
  resumable : t.progress.hasStarted = true → ∀ runId execConfig,
    (t.progress.resumeState? runId execConfig).isSome

variable {slots : List TaskSlot} {t : Flight}

theorem Ready.settled (h : t.Ready slots) : t.Settled slots where
  length := by rw [h.slots_eq]
  count := h.count
  kept := fun i slot hi _ => ⟨by rw [h.slots_eq, hi], by simp [h.events]⟩
  recorded := by simp [h.events]
  reported := by simp [h.events]
  served := by simp [h.unstarted]
  idle := fun _ => ⟨h.slots_eq, by simp [h.events]⟩
  resumable := by simp [h.unstarted]

theorem Ready.pushFilter (h : t.Ready slots) (task : Task) (schema : Schema) :
    Ready slots { t with progress := t.progress.pushFilter task schema } :=
  ⟨h.slots_eq, h.count, h.unstarted, h.events⟩

theorem Ready.setOutput (h : t.Ready slots) (task : Task) (schema : Schema) :
    Ready slots { t with progress := t.progress.setOutput task schema } :=
  ⟨h.slots_eq, h.count, h.unstarted, h.events⟩

theorem Settled.setDiff (h : t.Settled slots) (diff : Report) :
    Settled slots { t with outputDiff := some diff } :=
  ⟨h.length, h.count, h.kept, h.recorded, h.reported, h.served, h.idle, h.resumable⟩

/-- The tasks are launched only when a plan could be made, so the state is complete then. -/
theorem resumable_of_plan {p : Progress} {plugins : TransferPlugins} {plan : TaskPlan}
    (h : p.plan plugins = .ok plan) {slots : List TaskSlot} (runId : String) (execConfig : Config) :
    (Progress.resumeState? { p with hasStarted := true, slots } runId execConfig).isSome := by
  unfold Progress.plan at h
  split at h
  · rename_i inputTask inputSchema outputTask outputSchema h₁ h₂ h₃ h₄
    simp [Progress.resumeState?, h₁, h₂, h₃, h₄]
  · cases h
  · cases h

/-- What the tasks of a session leave in a flight. -/
theorem Ready.settle (h : t.Ready slots) {plugins : TransferPlugins} {plan : TaskPlan}
    (hp : t.progress.plan plugins = .ok plan) {crew : Crew}
    (served : Served t.progress.pendingTasks crew) :
    (Flight.settle { t with progress := t.progress.markStarted } crew).Settled slots := by
  obtain ⟨frame, length⟩ := t.progress.markStarted.recordAll_frame crew.outcomes
  change _ = t.progress.slots.length at length
  have nodup : (crew.outcomes.map TaskOutcome.index).Nodup :=
    served.all.nodup_iff.mpr t.progress.pendingTasks_nodup
  have pending : ∀ i, i ∈ crew.outcomes.map TaskOutcome.index ↔ i ∈ t.progress.pendingTasks :=
    fun i => served.all.mem_iff
  have started : (t.progress.markStarted.recordAll crew.outcomes).hasStarted = true := by
    rw [frame]
    rfl
  have ended : ∀ o, .ended o ∈ (Flight.settle { t with progress := t.progress.markStarted } crew).events ↔
      o ∈ crew.outcomes := by
    simp [Flight.settle, h.events]
  have launched : ∀ i,
      .launched i ∈ (Flight.settle { t with progress := t.progress.markStarted } crew).events ↔
        i ∈ crew.launched := by
    simp [Flight.settle, h.events]
  exact {
    length := length.trans (congrArg _ h.slots_eq)
    count := by
      change (t.progress.markStarted.recordAll crew.outcomes).taskCount = _
      rw [frame]
      exact h.count
    kept := by
      intro i slot hi committed
      rw [← h.slots_eq] at hi
      have other : i ∉ t.progress.pendingTasks := Progress.not_pending_of_committed hi committed
      refine ⟨?_, fun hm => other (served.launched i ((launched i).mp hm))⟩
      exact (Progress.recordAll_other (fun hm => other ((pending i).mp hm))).trans hi
    recorded := by
      intro o ho
      have ran := (pending o.index).mp (List.mem_map_of_mem ((ended o).mp ho))
      exact Progress.recordAll_self nodup ((ended o).mp ho) (Progress.pending_lt ran)
    reported := by
      intro phase reports hm
      simp [Flight.settle, h.events] at hm
    served := by
      intro _ i slot hi open_
      have ran : i ∈ t.progress.pendingTasks := by
        rw [Progress.mem_pendingTasks, h.slots_eq]
        exact ⟨slot, hi, open_⟩
      obtain ⟨o, ho, rfl⟩ := List.mem_map.mp ((pending i).mpr ran)
      refine ⟨⟨o, (ended o).mpr ho, rfl⟩, ?_⟩
      rcases served.cancelled o ho with hl | hc
      · exact .inl ((launched _).mpr hl)
      · exact .inr ((ended _).mpr (hc ▸ ho))
    idle := by
      intro unstarted
      change (t.progress.markStarted.recordAll crew.outcomes).hasStarted = false at unstarted
      rw [started] at unstarted
      cases unstarted
    resumable := by
      intro _ runId execConfig
      change (Progress.resumeState? (t.progress.markStarted.recordAll crew.outcomes) _ _).isSome
      rw [frame]
      exact resumable_of_plan hp runId execConfig }

theorem Settled.handOver (h : t.Settled slots) {phase : TaskPhase} {reports : List Report}
    (given : t.progress.reportsOf phase = .ok reports) :
    Settled slots { t with events := t.events ++ [.reported phase reports] } where
  length := h.length
  count := h.count
  kept := fun i slot hi committed => ⟨(h.kept i slot hi committed).1, by
    simpa using (h.kept i slot hi committed).2⟩
  recorded := fun o ho => h.recorded o (by simpa using ho)
  reported := by
    intro other all hm
    rcases List.mem_append.mp hm with hm | hm
    · exact h.reported other all hm
    · cases List.mem_singleton.mp hm
      exact Progress.reportsOf_ok given
  served := by simpa using h.served
  idle := by simpa using h.idle
  resumable := h.resumable

end Flight

namespace Executor

variable {slots : List TaskSlot} {t : Flight} {plugins : TransferPlugins}

theorem runTasks_settles (h : t.Ready slots) :
    Yields (runTasks plugins) t fun _ t' => t'.Settled slots := by
  refine Yields.get_bind ?_
  cases hp : t.progress.plan plugins with
  | error e => exact Yields.pure h.settled
  | ok plan =>
    refine Yields.get_bind (Yields.modify_bind (Yields.get_bind ?_))
    refine Yields.bind (P := fun crew t' => t' = { t with progress := t.progress.markStarted } ∧
      Served t.progress.pendingTasks crew) ?_ ?_
    · intro w
      exact ⟨rfl, Workers.serve_served t.exec.threads_room _ _⟩
    · rintro crew _ ⟨rfl, served⟩
      refine Yields.modify_bind (Yields.get_bind ?_)
      have settled := h.settle hp served
      dsimp only
      split
      · exact Yields.pure settled
      · exact Yields.pure settled

theorem handOver_settles (h : t.Settled slots) (phase : TaskPhase) :
    Yields (handOver phase) t fun _ t' => t'.Settled slots := by
  refine Yields.get_bind ?_
  cases given : t.progress.reportsOf phase with
  | error e => exact Yields.pure h
  | ok reports => exact Yields.modify_bind (Yields.pure (h.handOver given))

theorem outputControl_settles (h : t.Ready slots) (schema : Schema) (task : Task) :
    Yields (outputControl plugins schema task) t fun _ t' => t'.Settled slots := by
  refine Yields.modify_bind ?_
  refine Yields.bind (runTasks_settles (h.setOutput task schema)) ?_
  intro result t' settled
  cases result with
  | error e => exact Yields.pure settled
  | ok _ => exact handOver_settles settled .output

theorem runOutput_settles (h : t.Ready slots) (isResuming : Bool) (schema : Schema) :
    Yields (runOutput plugins isResuming schema) t fun _ t' => t'.Settled slots := by
  refine Yields.get_bind ?_
  refine Yields.bind (Yields.drive (P := Flight.Settled slots) h.settled
    (outputControl_settles h schema)) ?_
  intro result t' settled
  cases result with
  | error e => exact Yields.pure settled
  | ok diff =>
    exact Yields.modify_bind (Yields.pure (settled.setDiff diff))

theorem runFilters_settles (filters : List FilterChoice) (h : t.Ready slots) (schema : Schema) :
    Yields (runFilters plugins filters schema) t fun _ t' => t'.Settled slots := by
  induction filters generalizing t schema with
  | nil => exact runOutput_settles h false schema
  | cons f rest ih =>
    refine Yields.drive h.settled fun request => Yields.modify_bind ?_
    exact ih (h.pushFilter request.task request.schema) request.schema

/-- A fresh transfer starts with blank slots, as many as its input asks for. -/
theorem inputControl_settles {exec : ExecConfig} (request : InputRequest) :
    Yields (inputControl plugins request) (.ofProgress exec .fresh) fun _ t' =>
      t'.Settled (List.replicate request.taskCount .blank) := by
  refine Yields.modify_bind ?_
  have ready : Flight.Ready (List.replicate request.taskCount .blank)
      { Flight.ofProgress exec .fresh with
        progress := Progress.fresh.setInput request.task request.schema request.taskCount } := by
    refine ⟨?_, by simp [Progress.setInput], rfl, rfl⟩
    by_cases fits : 0 = request.taskCount
    · simp [Progress.setInput, Progress.fresh, ← fits]
    · simp [Progress.setInput, Progress.fresh, fits]
  refine Yields.bind (runFilters_settles plugins.filters ready request.schema) ?_
  intro result t' settled
  cases result with
  | error e => exact Yields.pure settled
  | ok _ => exact handOver_settles settled .input

/-- A resumed transfer keeps the slots that it was saved with. -/
theorem resumedInputControl_settles (h : t.Ready slots) (request : InputRequest) :
    Yields (resumedInputControl plugins request) t fun _ t' => t'.Settled slots := by
  refine Yields.get_bind ?_
  dsimp only
  split
  · exact Yields.pure h.settled
  · rename_i same
    refine Yields.modify_bind (Yields.get_bind ?_)
    have ready : Flight.Ready slots { t with
        progress := t.progress.setInput request.task request.schema request.taskCount } := by
      have count : t.progress.taskCount = request.taskCount := Decidable.not_not.mp same
      have fits : slots.length = request.taskCount := h.count.symm.trans count
      refine ⟨?_, ?_, h.unstarted, h.events⟩
      · simp only [Progress.setInput, count, fits, and_self, if_true, h.slots_eq]
      · exact count.symm.trans h.count
    split
    · exact Yields.pure ready.settled
    · rename_i schema _
      refine Yields.bind (runOutput_settles ready true schema) ?_
      intro result t' settled
      cases result with
      | error e => exact Yields.pure settled
      | ok _ => exact handOver_settles settled .input

/-- A flight is the transaction of the input, driven in a new session. -/
theorem fly_run (d : Departure) (w : World) :
    d.fly.run w =
      let driven := (d.transaction.drive d.control (.ofProgress d.exec d.progress)).run
        (w.beginSession d.exec.pageSize)
      (⟨d.runId, d.execConfig, driven.1.2, driven.1.1, driven.2.metrics⟩, driven.2) :=
  Program.run_andThen (d.transaction.drive d.control (.ofProgress d.exec d.progress))
    (fun driven => .step id fun w => .done
      (⟨d.runId, d.execConfig, driven.2, driven.1, w.metrics⟩ : Landing))
    (w.beginSession d.exec.pageSize)

theorem fly_flight {d : Departure} {P : Flight → Prop} (idle : P (.ofProgress d.exec d.progress))
    (called : ∀ q, Yields (d.control q) (.ofProgress d.exec d.progress) fun _ t' => P t')
    (w : World) : P (d.fly.run w).1.flight := by
  rw [fly_run]
  exact Yields.drive idle called (w.beginSession d.exec.pageSize)

section Departures

variable {registry : Registry} {config : Config} {saved : ResumeState} {d : Departure}

/-- What a fresh transfer departs with. -/
theorem departure_ok (h : departure registry config = .ok d) :
    ∃ execConfig exec plugins, TransferPlugins.resolve registry config = .ok plugins ∧
      d = ⟨runId config, execConfig, exec, .fresh, plugins.input.transaction plugins.inputConfig,
        inputControl plugins⟩ := by
  unfold departure at h
  split at h
  · cases h
  · split at h
    · cases h
    · rename_i plugins resolved
      exact ⟨_, _, plugins, resolved, (Except.ok.inj h).symm⟩

/-- What a resumed transfer departs with. -/
theorem resumption_ok (h : resumption registry config saved = .ok d) :
    ∃ exec plugins, TransferPlugins.resolve registry config = .ok plugins ∧
      d = ⟨saved.runId, saved.execConfig, exec, .resumed saved,
        plugins.input.resume saved.inputTask saved.inputSchema saved.taskCount,
        resumedInputControl plugins⟩ := by
  unfold resumption at h
  split at h
  · cases h
  · split at h
    · cases h
    · rename_i plugins resolved
      split at h
      · cases h
      · exact ⟨_, plugins, resolved, (Except.ok.inj h).symm⟩

theorem departure_settles (h : departure registry config = .ok d) (w : World) :
    ∃ count, (d.fly.run w).1.flight.Settled (List.replicate count .blank) := by
  obtain ⟨_, _, _, -, rfl⟩ := departure_ok h
  refine fly_flight (P := fun t => ∃ count, t.Settled (List.replicate count .blank)) ?_ ?_ w
  · exact ⟨0, Flight.Ready.settled ⟨rfl, rfl, rfl, rfl⟩⟩
  · exact fun q => (inputControl_settles q).mono fun _ _ settled => ⟨_, settled⟩

theorem resumption_settles (h : resumption registry config saved = .ok d) (w : World) :
    (d.fly.run w).1.flight.Settled
      ((List.range saved.taskCount).map (Progress.resumedSlot saved)) := by
  obtain ⟨exec, _, -, rfl⟩ := resumption_ok h
  have ready : Flight.Ready ((List.range saved.taskCount).map (Progress.resumedSlot saved))
      (.ofProgress exec (.resumed saved)) :=
    ⟨rfl, by simp [Flight.ofProgress, Progress.resumed], rfl, rfl⟩
  exact fly_flight ready.settled (resumedInputControl_settles ready) w

end Departures

end Executor

namespace Landing

variable {l : Landing} {e : PluginError}

theorem resumeState?_none (h : l.flight.progress.hasStarted = false) : l.resumeState? = none := by
  simp [resumeState?, Progress.resumeState?, h]

theorem conclude_ok {diff : Report} (h : l.result = .ok diff) :
    l.conclude = .ok ⟨(Document.empty.setNested "in" diff).setNested "out"
      (l.flight.outputDiff.getD Document.empty), l.metrics⟩ := by
  rw [conclude, h]

theorem result_of_conclude {r : ExecutionResult} (h : l.conclude = .ok r) :
    ∃ diff, l.result = .ok diff ∧ r.diff = (Document.empty.setNested "in" diff).setNested "out"
      (l.flight.outputDiff.getD Document.empty) := by
  cases result : l.result with
  | ok diff =>
    rw [conclude_ok result] at h
    cases h
    exact ⟨diff, rfl, rfl⟩
  | error e =>
    unfold conclude at h
    rw [result] at h
    dsimp only at h
    split at h
    · cases h
    · cases h

/-- Without a state to resume from, the failure is that of the transactions. -/
theorem conclude_plugin (h : l.result = .error e) (none : l.resumeState? = none) :
    l.conclude = .error (.plugin e) := by
  simp only [conclude, h, none]

theorem conclude_partiallyFailed (h : l.result = .error e) {s : ResumeState}
    (left : l.resumeState? = some s) : ∃ cause suppressed,
      l.conclude = .error (.partiallyFailed s cause suppressed) := by
  simp only [conclude, h, left]
  exact ⟨_, _, rfl⟩

theorem unstarted_of_none {slots : List TaskSlot} (h : l.flight.Settled slots)
    (none : l.resumeState? = none) : l.flight.progress.hasStarted = false := by
  cases started : l.flight.progress.hasStarted with
  | false => rfl
  | true =>
    have some := h.resumable started l.runId l.execConfig
    rw [← resumeState?, none] at some
    cases some

end Landing

end BulkTransfer
