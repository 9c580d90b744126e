import BulkTransfer.Proofs.Plugin.Nesting
import BulkTransfer.Proofs.Transfer.FailureReport
import BulkTransfer.Proofs.Transfer.Filtering
import BulkTransfer.Proofs.Transfer.Soundness
/-!
# The order of filters

The transactions of the filters run inside each other when a transfer is begun, and not again when it is
resumed. What they have asked for is noted, or taken from the saved state, and is put together with the
chosen filters when the tasks are launched. In all of this the filters keep the order of the config.
-/
namespace BulkTransfer

section Tasks

/-- How a task of the plan may have ended: as it can when it is performed, or without having been run to
its end. -/
inductive TaskPlan.MayEnd (p : TaskPlan) : TaskOutcome → Prop where
  | performed {index : Nat} {o : TaskOutcome} (ends : (p.perform index).CanEnd o) : p.MayEnd o
  | cancelled (index : Nat) : p.MayEnd (.failed index .cancelled)
  | crashed (index : Nat) (text : String) : p.MayEnd (.failed index (.panicked text))

/-- What runs is what is left of a task of the plan. -/
structure Crew.Performs (p : TaskPlan) (c : Crew) : Prop where
  running : ∀ task ∈ c.running, ∀ o, task.2.CanEnd o → (p.perform task.1).CanEnd o
  ended : ∀ o ∈ c.ended, p.MayEnd o

namespace Crew.Performs

variable {p : TaskPlan} {c : Crew} {place : Nat} {o : TaskOutcome}

theorem ends (h : c.Performs p) (may : p.MayEnd o) :
    ∀ o' ∈ c.ended ++ [o], p.MayEnd o' := by
  intro o' mem
  rcases List.mem_append.mp mem with mem | mem
  · exact h.ended o' mem
  · exact List.mem_singleton.mp mem ▸ may

theorem launch (h : c.Performs p) (limit : Option Nat) (w : World) :
    (c.launch p limit w).Performs p := by
  unfold Crew.launch
  split
  · exact h
  · split
    · exact ⟨h.running, h.ends (.cancelled _)⟩
    · split
      · refine ⟨fun task mem => ?_, h.ended⟩
        rcases List.mem_append.mp mem with mem | mem
        · exact h.running task mem
        · rw [List.mem_singleton.mp mem]
          exact fun _ => id
      · exact h

theorem step (h : c.Performs p) (place : Nat) (w : World) : (c.step place w).1.Performs p := by
  rcases c.step_cases place w with ⟨-, same⟩ | ⟨index, o, there, same⟩ | ⟨index, change, next, there, same⟩
  · rwa [same]
  · rw [same]
    exact ⟨fun task mem => h.running task (List.mem_of_mem_eraseIdx mem),
      h.ends (.performed (h.running _ (List.mem_of_getElem? there) o rfl))⟩
  · rw [same]
    refine ⟨fun task mem => ?_, h.ended⟩
    rcases List.mem_or_eq_of_mem_set mem with mem | rfl
    · exact h.running task mem
    · exact fun o left => h.running _ (List.mem_of_getElem? there) o ⟨w, left⟩

theorem crash (h : c.Performs p) (place : Nat) (text : String) : (c.crash place text).Performs p := by
  unfold Crew.crash
  split
  · exact h
  · exact ⟨fun task mem => h.running task (List.mem_of_mem_eraseIdx mem), h.ends (.crashed _ text)⟩

theorem follow (h : c.Performs p) (limit : Option Nat) (w : World) (choice : Choice) :
    (c.follow p limit w choice).1.Performs p := by
  cases choice with
  | launch => exact h.launch limit w
  | step place => exact h.step place w
  | crash place text => exact h.crash place text
  | stop => exact h

end Crew.Performs

/-- However the tasks of a plan are scheduled, each of them ends as it may. -/
theorem Workers.serve_mayEnd {p : TaskPlan} {limit : Option Nat} (room : limit.all (0 < ·))
    (indices : List Nat) (w : World) : ∀ o ∈ (serve p limit indices w).1.outcomes, p.MayEnd o := by
  obtain ⟨-, -, _, performs, -⟩ := serve_invariant (p := p) (I := fun c _ => c.Performs p) room indices w
    ⟨by simp [Crew.ofIndices], by simp [Crew.ofIndices]⟩ fun c w' choice _ h => h.follow limit w' choice
  exact fun o mem => performs.ended o ((Crew.outcomes_perm _).subset mem)

end Tasks

section Requests

/-- The schema behind filters that have asked for this. -/
def Schema.behind (schema : Schema) (requests : List FilterRequest) : Schema :=
  requests.foldl (fun _ q => q.schema) schema

/-- What filters ask for when they are begun in turn, each given the schema that the one before has asked
for. -/
abbrev Asks (filters : List FilterChoice) (schema : Schema) (w : World) (requests : List FilterRequest)
    (left : List FilterChoice) (w' : World) : Prop :=
  InTurn (fun f schema => f.plugin.transaction f.config schema) FilterRequest.schema filters schema w requests left w'

/-- What filters have asked for is noted behind what is noted already. -/
def Progress.pushAll (p : Progress) (requests : List FilterRequest) : Progress :=
  { p with
    filterTasks := p.filterTasks ++ requests.map FilterRequest.task
    filterSchemas := p.filterSchemas ++ requests.map FilterRequest.schema }

theorem Progress.pushAll_nil (p : Progress) : p.pushAll [] = p := by
  rw [pushAll, List.map_nil, List.map_nil, List.append_nil, List.append_nil]

theorem Progress.pushAll_cons (p : Progress) (q : FilterRequest) (requests : List FilterRequest) :
    p.pushAll (q :: requests) = (p.pushFilter q.task q.schema).pushAll requests := by
  simp [pushAll, pushFilter]

end Requests

/-- Where filters were noted like this when the output was begun with this schema: they still are, and if
the tasks were launched, then by the plan that results from what the output has asked for. -/
structure Flight.Passes (t : Flight) (plugins : TransferPlugins) (p : Progress) (schema : Schema)
    (asks : Task → Prop) : Prop where
  tasks : t.progress.filterTasks = p.filterTasks
  schemas : t.progress.filterSchemas = p.filterSchemas
  idle : t.progress.hasStarted = false → t.outcomes = []
  served : t.progress.hasStarted = true → ∃ task plan, asks task ∧
    (p.setOutput task schema).plan plugins = .ok plan ∧ t.progress.plan plugins = .ok plan ∧
      ∀ o ∈ t.outcomes, plan.MayEnd o

theorem Flight.outcomes_settle (t : Flight) (crew : Crew) :
    (t.settle crew).outcomes = t.outcomes ++ crew.outcomes := by
  simp [outcomes, settle]

namespace Executor

variable {plugins : TransferPlugins} {t : Flight} {w : World} {p : Progress} {schema : Schema}
  {asks : Task → Prop}

/-- Nothing was done with the tasks yet. -/
structure Unserved (t : Flight) : Prop where
  unstarted : t.progress.hasStarted = false
  outcomes : t.outcomes = []

theorem Unserved.passes {p : Progress} (h : Unserved t) (tasks : t.progress.filterTasks = p.filterTasks)
    (schemas : t.progress.filterSchemas = p.filterSchemas) (schema : Schema) (asks : Task → Prop) :
    t.Passes plugins p schema asks where
  tasks := tasks
  schemas := schemas
  idle := fun _ => h.outcomes
  served := fun started => absurd (h.unstarted.symm.trans started) (by decide)

theorem runTasks_passes {task : Task} (unserved : Unserved t) (frozen : t.progress = p.setOutput task schema)
    (asked : asks task) : Yields (runTasks plugins) t fun _ t' => t'.Passes plugins p schema asks := by
  have tasks : t.progress.filterTasks = p.filterTasks := frozen ▸ rfl
  have schemas : t.progress.filterSchemas = p.filterSchemas := frozen ▸ rfl
  refine Yields.get_bind ?_
  cases planned : t.progress.plan plugins with
  | error e => exact Yields.pure (unserved.passes tasks schemas schema asks)
  | ok plan =>
    refine Yields.get_bind (Yields.modify_bind (Yields.get_bind ?_))
    refine Yields.bind (P := fun crew t' => t' = { t with progress := t.progress.markStarted } ∧
      ∀ o ∈ crew.outcomes, plan.MayEnd o)
      (fun w => ⟨rfl, Workers.serve_mayEnd t.exec.threads_room _ w⟩) ?_
    rintro crew _ ⟨rfl, ends⟩
    have passes : (Flight.settle { t with progress := t.progress.markStarted } crew).Passes
        plugins p schema asks := by
      have frame : (Flight.settle { t with progress := t.progress.markStarted } crew).progress = _ :=
        (t.progress.markStarted.recordAll_frame crew.outcomes).1
      have outcomes : (Flight.settle { t with progress := t.progress.markStarted } crew).outcomes =
          crew.outcomes := by
        have none : Flight.outcomes { t with progress := t.progress.markStarted } = [] := unserved.outcomes
        rw [Flight.outcomes_settle, none, List.nil_append]
      refine ⟨frame ▸ tasks, frame ▸ schemas, fun unstarted => ?_, fun _ => ?_⟩
      · rw [frame] at unstarted
        cases unstarted
      · refine ⟨task, plan, asked, frozen ▸ planned, frame ▸ planned, fun o mem => ends o ?_⟩
        rwa [outcomes] at mem
    refine Yields.modify_bind (Yields.get_bind ?_)
    dsimp only
    split
    · exact Yields.pure passes
    · exact Yields.pure passes

theorem handOver_passes (passes : t.Passes plugins p schema asks) (side : TaskPhase) :
    Yields (handOver side) t fun _ t' => t'.Passes plugins p schema asks := by
  refine Yields.get_bind ?_
  cases t.progress.reportsOf side with
  | error e => exact Yields.pure passes
  | ok reports =>
    have outcomes : Flight.outcomes { t with events := t.events ++ [.reported side reports] } =
        t.outcomes := by simp [Flight.outcomes]
    exact Yields.modify_bind (Yields.pure ⟨passes.tasks, passes.schemas,
      fun unstarted => outcomes.trans (passes.idle unstarted), fun started => outcomes ▸ passes.served started⟩)

theorem outputControl_passes {task : Task} (unserved : Unserved t) (asked : asks task) :
    Yields (outputControl plugins schema task) t fun _ t' => t'.Passes plugins t.progress schema asks := by
  refine Yields.modify_bind (Yields.bind
    (runTasks_passes (p := t.progress) ⟨unserved.unstarted, unserved.outcomes⟩ rfl asked) fun result t' passes => ?_)
  cases result with
  | error e => exact Yields.pure passes
  | ok _ => exact handOver_passes passes .output

/-- The output is begun with the schema that it is opened with. -/
theorem runOutput_passes (unserved : Unserved t) (isResuming : Bool) (schema : Schema) :
    Leads (runOutput plugins isResuming schema) t w fun _ t' _ => t'.Passes plugins t.progress schema
      fun task => ∃ resume w', (outputTransaction plugins isResuming schema t.progress).run w =
        (.called task resume, w') := by
  refine Leads.get_bind (Leads.bind (Leads.around (S := fun _ t' _ => t'.Passes plugins t.progress schema
      fun task => ∃ resume w', (outputTransaction plugins isResuming schema t.progress).run w =
        (.called task resume, w')) ?_ ?_) ?_)
  · exact fun a w' _ => unserved.passes rfl rfl schema _
  · exact fun task resume w' ran => outputControl_passes unserved ⟨resume, w', ran⟩ w'
  · rintro (e | diff) t' w' passes
    · exact Leads.pure passes
    · exact Leads.modify_bind (Leads.pure
        ⟨passes.tasks, passes.schemas, passes.idle, passes.served⟩)

/-- What the output of a begun transfer has asked for, behind filters that have all asked before. -/
def OutputAsks (plugins : TransferPlugins) (count : Nat) (left : List FilterChoice) (schema : Schema)
    (w : World) (task : Task) : Prop :=
  left = [] ∧ ∃ resume w', (plugins.output.transaction plugins.outputConfig schema count).run w =
    (.called task resume, w')

theorem runFilters_passes (unserved : Unserved t) (filters : List FilterChoice) (schema : Schema) :
    Leads (runFilters plugins filters schema) t w fun _ t' _ => ∃ requests left w',
      Asks filters schema w requests left w' ∧
        t'.Passes plugins (t.progress.pushAll requests) (schema.behind requests)
          (OutputAsks plugins t.progress.taskCount left (schema.behind requests) w') := by
  induction filters generalizing t schema w with
  | nil =>
    have fresh : outputTransaction plugins false schema t.progress =
        plugins.output.transaction plugins.outputConfig schema t.progress.taskCount := by
      unfold outputTransaction
      split
      · rename_i never
        cases never
      · rfl
    refine (runOutput_passes unserved false schema).mono fun _ t' _ passes => ?_
    rw [fresh] at passes
    refine ⟨[], [], w, .all schema w, ?_⟩
    rw [Progress.pushAll_nil]
    refine ⟨passes.tasks, passes.schemas, passes.idle, fun started => ?_⟩
    obtain ⟨task, plan, asked, planned⟩ := passes.served started
    exact ⟨task, plan, ⟨rfl, asked⟩, planned⟩
  | cons f rest ih =>
    refine Leads.around ?_ ?_
    -- A filter that does not call its control leaves those behind it unasked, and no task is launched.
    · intro a w' ran
      refine ⟨[], f :: rest, w', .stops ran, ?_⟩
      rw [Progress.pushAll_nil]
      exact unserved.passes rfl rfl _ _
    · intro q resume w' ran
      refine Leads.modify_bind ((@ih { t with progress := t.progress.pushFilter q.task q.schema } w'
        ⟨unserved.unstarted, unserved.outcomes⟩ q.schema).mono fun _ t' w'' behind => ?_)
      obtain ⟨requests, left, w₁, asks, passes⟩ := behind
      refine ⟨q :: requests, left, w₁, .goesOn ⟨resume, ran⟩ asks, ?_⟩
      rw [Progress.pushAll_cons]
      exact passes

theorem inputControl_passes {exec : ExecConfig} (q : InputRequest) :
    Leads (inputControl plugins q) (.ofProgress exec .fresh) w fun _ t' _ => ∃ requests left w',
      Asks plugins.filters q.schema w requests left w' ∧
        t'.Passes plugins ((Progress.fresh.setInput q.task q.schema q.taskCount).pushAll requests)
          (q.schema.behind requests) (OutputAsks plugins q.taskCount left (q.schema.behind requests) w') := by
  refine Leads.modify_bind (Leads.bind (runFilters_passes ⟨rfl, rfl⟩ plugins.filters q.schema)
    fun result t' w' behind => ?_)
  cases result with
  | error e => exact Leads.pure behind
  | ok _ =>
    obtain ⟨requests, left, w'', asks, passes⟩ := behind
    exact (handOver_passes passes .input w').mono fun _ _ _ passes => ⟨requests, left, w'', asks, passes⟩

theorem resumedInputControl_passes {exec : ExecConfig} {s : ResumeState} (q : InputRequest) :
    Leads (resumedInputControl plugins q) (.ofProgress exec (.resumed s)) w fun _ t' _ =>
      t'.Passes plugins ((Progress.resumed s).setInput q.task q.schema q.taskCount) s.outputSchema
        fun task => ∃ resume w', (plugins.output.resume s.outputTask s.outputSchema q.taskCount).run w =
          (.called task resume, w') := by
  refine Leads.get_bind ?_
  by_cases same : (Flight.ofProgress exec (.resumed s)).progress.taskCount = q.taskCount
  · rw [if_neg (not_not.mpr same)]
    refine Leads.modify_bind (Leads.get_bind (Leads.bind (runOutput_passes ⟨rfl, rfl⟩ true s.outputSchema)
      fun result t' w' passes => ?_))
    cases result with
    | error e => exact Leads.pure passes
    | ok _ => exact handOver_passes passes .input w'
  · rw [if_pos same]
    exact Leads.pure (Unserved.passes (p := (Progress.resumed s).setInput q.task q.schema q.taskCount)
      ⟨rfl, rfl⟩ rfl rfl _ _)

variable {registry : Registry} {config : Config} {d : Departure} {q : InputRequest} {w' : World}
  {resume : Attempt (List Report) → Action (Attempt Report)}

theorem departure_passes (departs : departure registry config = .ok d)
    (resolved : TransferPlugins.resolve registry config = .ok plugins)
    (asked : inputEvent plugins none (w.beginSession d.exec.pageSize) = (.called q resume, w')) :
    ∃ requests left w'', Asks plugins.filters q.schema w' requests left w'' ∧
      (d.fly.run w).1.flight.Passes plugins
        ((Progress.fresh.setInput q.task q.schema q.taskCount).pushAll requests) (q.schema.behind requests)
        (OutputAsks plugins q.taskCount left (q.schema.behind requests) w'') := by
  obtain ⟨execConfig, exec, plugins', resolved', rfl⟩ := departure_ok departs
  obtain rfl : plugins' = plugins := Except.ok.inj (resolved'.symm.trans resolved)
  replace asked : (plugins'.input.transaction plugins'.inputConfig).run (w.beginSession exec.pageSize) = _ :=
    asked
  rw [fly_run, Transaction.run_drive, asked]
  exact inputControl_passes q

theorem resumption_passes {s : ResumeState} (departs : resumption registry config s = .ok d)
    (resolved : TransferPlugins.resolve registry config = .ok plugins)
    (asked : inputEvent plugins (some s) (w.beginSession d.exec.pageSize) = (.called q resume, w')) :
    (d.fly.run w).1.flight.Passes plugins ((Progress.resumed s).setInput q.task q.schema q.taskCount)
      s.outputSchema fun task => ∃ resume w'',
        (plugins.output.resume s.outputTask s.outputSchema q.taskCount).run w' = (.called task resume, w'') := by
  obtain ⟨exec, plugins', resolved', rfl⟩ := resumption_ok departs
  obtain rfl : plugins' = plugins := Except.ok.inj (resolved'.symm.trans resolved)
  replace asked : (plugins'.input.resume s.inputTask s.inputSchema s.taskCount).run
      (w.beginSession exec.pageSize) = _ := asked
  rw [fly_run, Transaction.run_drive, asked]
  exact resumedInputControl_passes q

end Executor

section Places

variable {filters : List FilterChoice} {requests : List FilterRequest} {schema : Schema}

/-- The filters of a plan stand in the order in which they were chosen, each with the task that it has
asked for, between the schema that the one before has asked for and its own. -/
structure TaskPlan.HasFilters (p : TaskPlan) (filters : List FilterChoice) (requests : List FilterRequest) :
    Prop where
  count : requests.length = filters.length ∧ p.filters.length = filters.length
  place : ∀ (i : Nat) (f : FilterChoice) (q : FilterRequest), filters[i]? = some f → requests[i]? = some q →
    p.filters[i]? = some ⟨f.plugin, q.task, p.inputSchema.behind (requests.take i), q.schema⟩
  linked : FilterTask.Linked p.inputSchema p.filters (p.inputSchema.behind requests)

/-- Chosen filters with what they have asked for. -/
def stagesOf (filters : List FilterChoice) (requests : List FilterRequest) :
    List (FilterChoice × Task × Schema) :=
  filters.zip ((requests.map FilterRequest.task).zip (requests.map FilterRequest.schema))

theorem filterTasksFrom_getElem? {i : Nat} {f : FilterChoice} {q : FilterRequest} (chosen : filters[i]? = some f)
    (asked : requests[i]? = some q) :
    (Progress.filterTasksFrom schema (stagesOf filters requests))[i]? =
      some ⟨f.plugin, q.task, schema.behind (requests.take i), q.schema⟩ := by
  induction requests generalizing i filters schema with
  | nil => simp at asked
  | cons q' requests ih =>
    cases filters with
    | nil => simp at chosen
    | cons f' filters =>
      cases i with
      | zero =>
        cases chosen
        cases asked
        rfl
      | succ i => exact ih chosen asked

theorem filterTasksFrom_linked (same : requests.length = filters.length) :
    FilterTask.Linked schema (Progress.filterTasksFrom schema (stagesOf filters requests))
      (schema.behind requests) := by
  induction requests generalizing filters schema with
  | nil =>
    rw [stagesOf, List.map_nil, List.zip_nil_left, List.zip_nil_right]
    exact .nil schema
  | cons q requests ih =>
    cases filters with
    | nil => cases same
    | cons f filters =>
      exact FilterTask.Linked.cons (f := ⟨f.plugin, q.task, schema, q.schema⟩) (ih (Nat.succ.inj same))

theorem filterTasksFrom_length (schema : Schema) (stages : List (FilterChoice × Task × Schema)) :
    (Progress.filterTasksFrom schema stages).length = stages.length := by
  induction stages generalizing schema with
  | nil => rfl
  | cons stage rest ih => exact congrArg Nat.succ (ih _)

theorem TaskPlan.hasFilters {p : TaskPlan} (same : requests.length = filters.length)
    (made : p.filters = Progress.filterTasksFrom p.inputSchema (stagesOf filters requests)) :
    p.HasFilters filters requests where
  count := ⟨same, by simp [made, filterTasksFrom_length, stagesOf, same]⟩
  place := fun i f q chosen asked => by rw [made, filterTasksFrom_getElem? chosen asked]
  linked := made ▸ filterTasksFrom_linked same

end Places

end BulkTransfer
