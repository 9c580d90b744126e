import BulkTransfer.Proofs.Transfer.Flight
import BulkTransfer.Proofs.Transfer.Teamwork
/-!
# Charters

A charter says what the transactions of a transfer freeze for its tasks, and what each task then
ensures in a region of its own. Once the transactions have frozen just that, a flight ends with all
its tasks as the charter says, whatever becomes of the transactions themselves.
-/
namespace BulkTransfer

/-- The tasks were launched, and all of them have committed. -/
def Flight.IsComplete (t : Flight) : Prop :=
  t.progress.hasStarted = true ∧ t.progress.failedCount = 0

structure Charter (plugins : TransferPlugins) where
  inputTask : Task
  inputSchema : Schema
  outputTask : Task
  outputSchema : Schema
  count : Nat
  /-- What the transaction of the output makes of the reports of its tasks. -/
  outputDiff : List Report → Attempt Report
  region : Nat → Region
  pre : Nat → Disk → Prop
  post : Nat → TaskOutcome → Disk → Prop
  apart : ∀ i < count, ∀ j < count, i ≠ j →
    ∀ l, (region i).reach l → ¬ (region j).own l ∧ ¬ (region j).read l
  pre_stable : ∀ i, (region i).Stable (pre i)
  post_stable : ∀ i o, (region i).Stable (post i o)
  perform : ∀ filters : List FilterTask,
    (∀ f ∈ filters, ∃ choice ∈ plugins.filters, f.plugin = choice.plugin) →
    ∀ i < count, ∀ d, pre i d → (TaskPlan.perform ⟨plugins.input, inputTask, inputSchema, filters,
      plugins.output, outputTask, outputSchema⟩ i).Ensures (region i) (post i) d

namespace Charter

variable {plugins : TransferPlugins} {t : Flight} {w : World} {launch : Disk} {pending : List Nat}
  {filters : List FilterTask}

def plan (c : Charter plugins) (filters : List FilterTask) : TaskPlan :=
  ⟨plugins.input, c.inputTask, c.inputSchema, filters, plugins.output, c.outputTask,
    c.outputSchema⟩

def team (c : Charter plugins)
    (known : ∀ f ∈ filters, ∃ choice ∈ plugins.filters, f.plugin = choice.plugin)
    (nodup : pending.Nodup) (inside : ∀ i ∈ pending, i < c.count) :
    Team (c.plan filters) pending where
  region := c.region
  pre := c.pre
  post := c.post
  distinct := nodup
  apart := fun i hi j hj => c.apart i (inside i hi) j (inside j hj)
  pre_stable := c.pre_stable
  post_stable := c.post_stable
  perform := fun i hi => c.perform filters known i (inside i hi)

variable (c : Charter plugins)

structure Begun (t : Flight) : Prop where
  inputTask : t.progress.inputTask = some c.inputTask
  inputSchema : t.progress.inputSchema = some c.inputSchema
  count : t.progress.taskCount = c.count

structure Frozen (t : Flight) : Prop extends Begun c t where
  outputTask : t.progress.outputTask = some c.outputTask
  outputSchema : t.progress.outputSchema = some c.outputSchema

/-- The tasks that are pending can be run in this world. Cancelled tasks and panics have to be tolerated
only where there can be any. -/
structure Ready (pending : List Nat) (t : Flight) (w : World) : Prop where
  events : t.events = []
  unstarted : t.progress.hasStarted = false
  waiting : t.progress.pendingTasks = pending
  inside : ∀ i ∈ pending, i < c.count
  before : ∀ i ∈ pending, c.pre i w.disk
  sized : ∀ i ∈ pending, w.pool.pageSize = (c.region i).pageSize
  cancels : w.MayStop → ∀ i ∈ pending, ∀ d, c.pre i d → c.post i (.failed i .cancelled) d
  tolerates : (∃ choice ∈ w.schedule, choice.IsCrash) →
    ∀ i text d, c.post i (.failed i (.panicked text)) d

/-- All tasks have committed, and the output has made its diff of their reports. -/
def Delivered (t : Flight) : Prop := t.IsComplete ∧ ∃ reports diff,
  .reported .output reports ∈ t.events ∧ c.outputDiff reports = .ok diff ∧ t.outputDiff = some diff

/-- From a disk on which the tasks could be launched, they have ended as they should, or were never
reached. -/
structure Course (pending : List Nat) (launch : Disk) (t : Flight) (w : World) : Prop where
  outcomes : ∀ o, .ended o ∈ t.events → c.post o.index o w.disk
  frame : launch.AgreesOn (fun l => ∀ i ∈ pending, ¬ (c.region i).reach l) w.disk
  frozen : t.progress.hasStarted = true → c.Frozen t
  idle : t.progress.hasStarted = false → w.disk = launch
  inside : ∀ i ∈ pending, i < c.count

variable {c}

theorem Ready.idle (h : c.Ready pending t w) : c.Course pending w.disk t w where
  outcomes := by simp [h.events]
  frame := .refl _ _
  frozen := by simp [h.unstarted]
  idle := fun _ => rfl
  inside := h.inside

theorem Ready.setOutput (h : c.Ready pending t w) (task : Task) (schema : Schema) :
    c.Ready pending { t with progress := t.progress.setOutput task schema } w :=
  ⟨h.events, h.unstarted, h.waiting, h.inside, h.before, h.sized, h.cancels, h.tolerates⟩

theorem Begun.setOutput (h : c.Begun t) :
    c.Frozen { t with progress := t.progress.setOutput c.outputTask c.outputSchema } :=
  ⟨⟨h.inputTask, h.inputSchema, h.count⟩, rfl, rfl⟩

theorem Course.handOver (h : c.Course pending launch t w) (side : TaskPhase) (reports : List Report) :
    c.Course pending launch { t with events := t.events ++ [.reported side reports] } w where
  outcomes := fun o ho => h.outcomes o (by simpa using ho)
  frame := h.frame
  frozen := fun started => by
    obtain ⟨⟨task, schema, count⟩, task', schema'⟩ := h.frozen started
    exact ⟨⟨task, schema, count⟩, task', schema'⟩
  idle := h.idle
  inside := h.inside

theorem Course.setDiff (h : c.Course pending launch t w) (diff : Report) :
    c.Course pending launch { t with outputDiff := some diff } w where
  outcomes := h.outcomes
  frame := h.frame
  frozen := fun started => by
    obtain ⟨⟨task, schema, count⟩, task', schema'⟩ := h.frozen started
    exact ⟨⟨task, schema, count⟩, task', schema'⟩
  idle := h.idle
  inside := h.inside

/-- Once the tasks were launched, the slot of each that had not committed before holds an outcome that
is as it should be. -/
theorem Course.slot (h : c.Course pending launch t w) {slots : List TaskSlot} (settled : t.Settled slots)
    (started : t.progress.hasStarted = true) {i : Nat} {slot : TaskSlot}
    (hi : slots[i]? = some slot) (waited : slot.isCommitted = false) : ∃ o : TaskOutcome,
      o.index = i ∧ t.progress.slots[i]? = some ⟨o.inputReport, o.outputReport, o.error⟩ ∧
        c.post i o w.disk := by
  obtain ⟨⟨o, ended, rfl⟩, -⟩ := settled.served started i slot hi waited
  exact ⟨o, rfl, settled.recorded o ended, h.outcomes o ended⟩

theorem Course.elsewhere (h : c.Course pending launch t w) {l : Location}
    (foreign : ∀ i < c.count, ¬ (c.region i).reach l) : w.disk.node? l = launch.node? l :=
  h.frame.node l fun i hi => foreign i (h.inside i hi)

theorem known_filters (s : Schema) (stages : List (FilterChoice × Task × Schema)) :
    ∀ f ∈ Progress.filterTasksFrom s stages, ∃ stage ∈ stages, f.plugin = stage.1.plugin := by
  induction stages generalizing s with
  | nil => simp [Progress.filterTasksFrom]
  | cons stage rest ih =>
    intro f hf
    rw [Progress.filterTasksFrom, List.mem_cons] at hf
    rcases hf with rfl | hf
    · exact ⟨stage, List.mem_cons_self, rfl⟩
    · obtain ⟨later, hm, same⟩ := ih _ f hf
      exact ⟨later, List.mem_cons_of_mem _ hm, same⟩

/-- Once both sides have frozen their parts, there is a plan for the tasks, with the filters chosen. -/
theorem plan_of (plugins : TransferPlugins) {p : Progress} {inputTask outputTask : Task} {inputSchema outputSchema : Schema}
    (task : p.inputTask = some inputTask) (schema : p.inputSchema = some inputSchema)
    (task' : p.outputTask = some outputTask) (schema' : p.outputSchema = some outputSchema) :
    ∃ filters : List FilterTask,
      (∀ f ∈ filters, ∃ choice ∈ plugins.filters, f.plugin = choice.plugin) ∧ p.plan plugins =
        .ok ⟨plugins.input, inputTask, inputSchema, filters, plugins.output, outputTask, outputSchema⟩ := by
  refine ⟨Progress.filterTasksFrom inputSchema
    (plugins.filters.zip (p.filterTasks.zip p.filterSchemas)), ?_, ?_⟩
  · intro f hf
    obtain ⟨stage, hm, same⟩ := known_filters _ _ f hf
    exact ⟨stage.1, (List.of_mem_zip hm).1, same⟩
  · simp only [Progress.plan, task, schema, task', schema']

theorem Frozen.plan (h : c.Frozen t) : ∃ filters : List FilterTask,
    (∀ f ∈ filters, ∃ choice ∈ plugins.filters, f.plugin = choice.plugin) ∧
      t.progress.plan plugins = .ok (c.plan filters) :=
  plan_of plugins h.inputTask h.inputSchema h.outputTask h.outputSchema

end Charter

namespace Executor

open Charter

variable {plugins : TransferPlugins} {c : Charter plugins} {t : Flight} {w : World}
  {launch : Disk} {pending : List Nat}

theorem runTasks_leads (ready : c.Ready pending t w) (frozen : c.Frozen t) :
    Leads (runTasks plugins) t w fun r t' w' => c.Course pending w.disk t' w' ∧
      t'.progress.hasStarted = true ∧ (r = .ok () → t'.IsComplete) := by
  obtain ⟨filters, known, made⟩ := frozen.plan
  refine Leads.get_bind ?_
  rw [made]
  refine Leads.get_bind (Leads.modify_bind (Leads.get_bind ?_))
  refine Leads.bind (P := fun crew t' w' =>
    t' = { t with progress := t.progress.markStarted } ∧
      (crew, w') = Workers.serve (c.plan filters) t.exec.threads pending w) ?_ ?_
  · refine ⟨rfl, ?_⟩
    rw [← ready.waiting]
    rfl
  · rintro crew _ w' ⟨rfl, served⟩
    have nodup : pending.Nodup := ready.waiting ▸ t.progress.pendingTasks_nodup
    obtain ⟨outcomes, frame⟩ := (c.team known nodup ready.inside).serve t.exec.threads_room
      ready.before ready.sized ready.cancels ready.tolerates
    rw [← served] at outcomes frame
    have same : (Flight.settle { t with progress := t.progress.markStarted } crew).progress = _ :=
      (t.progress.markStarted.recordAll_frame crew.outcomes).1
    have started : (Flight.settle { t with progress := t.progress.markStarted }
        crew).progress.hasStarted = true := by
      rw [same]
      rfl
    have course : c.Course pending w.disk
        (Flight.settle { t with progress := t.progress.markStarted } crew) w' := by
      refine ⟨fun o ho => outcomes o ?_, frame, fun _ => ?_,
        fun unstarted => absurd (started.symm.trans unstarted) (by decide), ready.inside⟩
      · simpa [Flight.settle, ready.events] using ho
      · constructor
        · constructor
          · rw [same]
            exact frozen.inputTask
          · rw [same]
            exact frozen.inputSchema
          · rw [same]
            exact frozen.count
        · rw [same]
          exact frozen.outputTask
        · rw [same]
          exact frozen.outputSchema
    refine Leads.modify_bind (Leads.get_bind ?_)
    dsimp only
    split
    · rename_i none
      exact Leads.pure ⟨course, started, fun _ => ⟨started, none⟩⟩
    · exact Leads.pure ⟨course, started, fun h => by cases h⟩

theorem handOver_leads (course : c.Course pending launch t w) (side : TaskPhase) :
    Leads (handOver side) t w fun r t' w' => c.Course pending launch t' w' ∧
      t'.progress.hasStarted = t.progress.hasStarted ∧ ∀ reports,
        r = .ok reports → t' = { t with events := t.events ++ [.reported side reports] } := by
  refine Leads.get_bind ?_
  cases given : t.progress.reportsOf side with
  | error e => exact Leads.pure ⟨course, rfl, fun reports h => by cases h⟩
  | ok reports =>
    refine Leads.modify_bind (Leads.pure ⟨course.handOver side reports, rfl, fun other h => ?_⟩)
    cases h
    rfl

/-- The output gets reports only when all tasks have committed. -/
theorem outputControl_leads (ready : c.Ready pending t w) (begun : c.Begun t) :
    Leads (outputControl plugins c.outputSchema c.outputTask) t w fun r t' w' =>
      c.Course pending w.disk t' w' ∧ t'.progress.hasStarted = true ∧ ∀ reports, r = .ok reports →
        t'.IsComplete ∧ .reported .output reports ∈ t'.events := by
  refine Leads.modify_bind ?_
  refine Leads.bind (runTasks_leads (ready.setOutput _ _) begun.setOutput) ?_
  rintro r t' w' ⟨course, started, complete⟩
  cases r with
  | error e => exact Leads.pure ⟨course, started, fun reports h => by cases h⟩
  | ok _ =>
    refine (handOver_leads course .output).mono ?_
    rintro r t'' w'' ⟨course, kept, given⟩
    refine ⟨course, kept.trans started, fun reports h => ?_⟩
    rw [given reports h]
    exact ⟨complete rfl, List.mem_append_right _ (List.mem_singleton_self _)⟩

/-- The transaction of the output: that of a fresh transfer, or one that goes on from a saved task. -/
def outputTransaction (plugins : TransferPlugins) (isResuming : Bool) (schema : Schema)
    (p : Progress) : Transaction Task (List Report) Report :=
  match p.outputTask, isResuming with
  | some task, true => plugins.output.resume task schema p.taskCount
  | _, _ => plugins.output.transaction plugins.outputConfig schema p.taskCount

/-- The tasks run inside the transaction of the output, when it opens as some charter says. -/
theorem runOutput_leads (pending : List Nat) {isResuming : Bool} {schema : Schema}
    {P : Task → (List Report → Attempt Report) → Prop} {S : Attempt Unit → Flight → World → Prop}
    (opens : (outputTransaction plugins isResuming schema t.progress).Opens w.disk P)
    (failed : ∀ e d, w.disk.GrowsTo d →
      (outputTransaction plugins isResuming schema t.progress).opened w.disk = none →
        S (.error e) t { w with disk := d })
    (called : ∀ q f d, P q f → w.disk.GrowsTo d →
      (outputTransaction plugins isResuming schema t.progress).opened w.disk = some (q, d) →
        ∃ c : Charter plugins, q = c.outputTask ∧ f = c.outputDiff ∧ schema = c.outputSchema ∧
          c.Begun t ∧ c.Ready pending t { w with disk := d } ∧ ∀ r t' w', c.Course pending d t' w' →
            t'.progress.hasStarted = true → (r = .ok () → c.Delivered t') → S r t' w') :
    Leads (runOutput plugins isResuming schema) t w S := by
  have driven : Leads ((outputTransaction plugins isResuming schema t.progress).drive
      (outputControl plugins schema)) t w fun r t' w' => (∀ e, r = .error e → S (.error e) t' w') ∧
        ∀ diff, r = .ok diff → S (.ok ()) { t' with outputDiff := some diff } w' := by
    refine Leads.drive opens (fun e d grows gaveUp => ⟨fun e' h => ?_, fun diff h => by cases h⟩) ?_
    · cases h
      exact failed e d grows gaveUp
    · intro q f d hp grows asked
      obtain ⟨c, rfl, rfl, rfl, begun, ready, ends⟩ := called q f d hp grows asked
      refine (outputControl_leads ready begun).mono ?_
      rintro r t' w' ⟨course, started, given⟩
      constructor
      · intro e _
        exact ends _ t' w' course started fun h => by cases h
      · intro diff made
        cases r with
        | error e => cases made
        | ok reports =>
          obtain ⟨complete, handed⟩ := given reports rfl
          exact ends _ _ w' (course.setDiff diff) started fun _ =>
            ⟨complete, reports, diff, handed, made, rfl⟩
  refine Leads.get_bind (Leads.bind driven ?_)
  rintro r t' w' ⟨bad, good⟩
  cases r with
  | error e => exact Leads.pure (bad e rfl)
  | ok diff => exact Leads.modify_bind (Leads.pure (good diff rfl))

/-- The input gets its reports when everything else is done. -/
theorem handInput_leads (course : c.Course pending launch t w) (delivered : c.Delivered t) :
    Leads (handOver .input) t w fun r t' w' => c.Course pending launch t' w' ∧
      t'.progress.hasStarted = true ∧ ∀ reports,
        r = .ok reports → c.Delivered t' ∧ .reported .input reports ∈ t'.events := by
  refine (handOver_leads course .input).mono ?_
  rintro r t' w' ⟨course, kept, given⟩
  refine ⟨course, kept.trans delivered.1.1, fun reports h => ?_⟩
  obtain ⟨⟨started, none⟩, outputs, diff, handed, made, told⟩ := delivered
  rw [given reports h]
  exact ⟨⟨⟨started, none⟩, outputs, diff, List.mem_append_left _ handed, made, told⟩,
    List.mem_append_right _ (List.mem_singleton_self _)⟩

end Executor

end BulkTransfer
