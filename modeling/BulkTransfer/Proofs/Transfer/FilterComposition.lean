import BulkTransfer.Proofs.Transfer.FilterOrder
/-!
# Filters compose in the order of the config

Each filter of a begun transfer is given the schema of the one before it. The tasks of this transfer, and
of any that is resumed from what it has left, open each filter with what this one has asked for then, and
pass the rows of the input through the first filter, then the second, and so on to the output.
-/
namespace BulkTransfer

/-- What becomes of a task with filters that behave like this: it does not come to read its input, it is
not run to its end, or what it reads passes the filters in order. Where all of it is taken, so do the rows. -/
inductive TaskPlan.Filtered (p : TaskPlan) (T : FilterTask → Behaviour) (last : Schema) : TaskOutcome → Prop where
  | cancelled (index : Nat) : p.Filtered T last (.failed index .cancelled)
  | crashed (index : Nat) (text : String) : p.Filtered T last (.failed index (.panicked text))
  | refused {index : Nat} {e : PluginError} (refuses : p.Refuses index e) :
      p.Filtered T last (.failed index e)
  | carried {index : Nat} {offered : List (Page × Attempt Unit)} {ended handed : List ChainCall} {o : TaskOutcome}
      (carries : p.Carries index T offered ended handed o)
      (rows : ∀ R : FilterTask → List (List Cell) → List (List Cell),
        (∀ f ∈ p.filters, ∀ calls handed, T f calls handed →
          ChangesRows f.inputSchema f.outputSchema (R f) calls handed) →
        o.inputReport.isSome → (∀ x ∈ offered, x.2 = .ok ()) → ∃ pages, handed = ChainCall.whole pages ∧
          ∀ rows, Page.rowsOf p.inputSchema (offered.map Prod.fst) = .ok rows →
            Page.rowsOf last pages = .ok (p.filters.foldl (fun rows f => R f rows) rows)) :
      p.Filtered T last o

theorem TaskPlan.MayEnd.filtered {p : TaskPlan} {T : FilterTask → Behaviour} {last : Schema} {o : TaskOutcome}
    (ends : p.MayEnd o) (linked : FilterTask.Linked p.inputSchema p.filters last)
    (behaves : ∀ f ∈ p.filters, f.Behaves (T f)) : p.Filtered T last o := by
  cases ends with
  | cancelled index => exact .cancelled index
  | crashed index text => exact .crashed index text
  | performed ends =>
    rcases perform_canEnd behaves ends with ⟨e, refuses, rfl⟩ | ⟨offered, ended, handed, carries⟩
    · exact .refused refuses
    · exact .carried carries fun R changes reported taken => carries.rows linked changes reported taken

namespace Executor

variable {registry : Registry} {config : Config} {d : Departure} {w w₀ w' : World}
  {plugins : TransferPlugins} {filters : List FilterChoice} {q q₀ : InputRequest} {s : ResumeState}
  {saved : Option ResumeState} {resume : Attempt (List Report) → Action (Attempt Report)}

/-- The state goes back to a transfer that was begun with these filters and whose input has asked for this
in this world. -/
inductive GoesBackTo (filters : List FilterChoice) (q : InputRequest) (w : World) : ResumeState → Prop where
  | begun {registry : Registry} {config : Config} {d : Departure} {plugins : TransferPlugins} {v : World}
      {resume : Attempt (List Report) → Action (Attempt Report)} {s : ResumeState}
      (departs : departure registry config = .ok d)
      (resolved : TransferPlugins.resolve registry config = .ok plugins) (same : plugins.filters = filters)
      (asked : inputEvent plugins none (v.beginSession d.exec.pageSize) = (.called q resume, w))
      (left : (d.fly.run v).1.stateAfter none = some s) : GoesBackTo filters q w s
  | resumed {registry : Registry} {config : Config} {d : Departure} {v : World} {s s' : ResumeState}
      (before : GoesBackTo filters q w s) (departs : resumption registry config s = .ok d)
      (left : (d.fly.run v).1.stateAfter (some s) = some s') : GoesBackTo filters q w s'

/-- Tasks are launched only when the input has asked for it. -/
theorem asked_of_started (saved : Option ResumeState) (departs : departureFrom registry config saved = .ok d)
    (resolved : TransferPlugins.resolve registry config = .ok plugins)
    (started : (d.fly.run w).1.flight.progress.hasStarted = true) :
    ∃ q resume w', inputEvent plugins saved (w.beginSession d.exec.pageSize) = (.called q resume, w') := by
  have begins : d.transaction.run = inputEvent plugins saved ∧ d.progress.hasStarted = false := by
    cases saved with
    | none =>
      obtain ⟨_, _, plugins', resolved', rfl⟩ := departure_ok departs
      obtain rfl : plugins' = plugins := Except.ok.inj (resolved'.symm.trans resolved)
      exact ⟨rfl, rfl⟩
    | some s =>
      obtain ⟨_, plugins', resolved', rfl⟩ := resumption_ok departs
      obtain rfl : plugins' = plugins := Except.ok.inj (resolved'.symm.trans resolved)
      exact ⟨rfl, rfl⟩
  rw [fly_run, Transaction.run_drive, begins.1] at started
  cases ran : inputEvent plugins saved (w.beginSession d.exec.pageSize) with
  | mk event w' =>
    cases event with
    | called q resume => exact ⟨q, resume, w', rfl⟩
    | finished a =>
      rw [ran] at started
      exact absurd (begins.2.symm.trans started) (by decide)

theorem plan_outputSchema {p : Progress} {plan : TaskPlan} (planned : p.plan plugins = .ok plan) :
    p.outputSchema = some plan.outputSchema := by
  unfold Progress.plan at planned
  split at planned
  · rename_i schema
    cases planned
    exact schema
  · cases planned
  · cases planned

/-- What a flight has noted of its filters is what the state holds that it leaves. -/
theorem passes_left {t : Flight} {p : Progress} {schema : Schema} {asks : Task → Prop} {runId : String}
    {execConfig : Config} (passes : t.Passes plugins p schema asks)
    (left : t.progress.resumeState? runId execConfig = some s) :
    s.filterTasks = p.filterTasks ∧ s.filterSchemas = p.filterSchemas ∧ s.outputSchema = schema := by
  obtain ⟨started, -⟩ := Progress.resumeState?_some left
  obtain ⟨tasks, schemas⟩ := Progress.resumeState?_filters left
  obtain ⟨-, -, -, output⟩ := Progress.resumeState?_frozen left
  obtain ⟨task, plan, -, planned, planned', -⟩ := passes.served started
  have frozen : some schema = some plan.outputSchema := plan_outputSchema planned
  have noted : some s.outputSchema = some plan.outputSchema := output.symm.trans (plan_outputSchema planned')
  exact ⟨tasks.trans passes.tasks, schemas.trans passes.schemas,
    (Option.some.inj noted).trans (Option.some.inj frozen).symm⟩

/-- A state holds what the filters have asked for, and the schema behind the last of them. -/
structure HoldsRequests (s : ResumeState) (schema : Schema) (requests : List FilterRequest) : Prop where
  tasks : s.filterTasks = requests.map FilterRequest.task
  schemas : s.filterSchemas = requests.map FilterRequest.schema
  output : s.outputSchema = schema.behind requests

theorem GoesBackTo.asked (h : GoesBackTo filters q w s) :
    ∃ requests w', Asks filters q.schema w requests [] w' ∧ HoldsRequests s q.schema requests := by
  induction h with
  | @begun registry config d plugins v resume s departs resolved same asked left =>
    subst same
    obtain ⟨requests, unasked, w', asks, passes⟩ := departure_passes departs resolved asked
    rcases Landing.stateAfter_some left with held | ⟨-, none⟩
    · obtain ⟨tasks, schemas, output⟩ := passes_left passes held
      obtain ⟨-, -, ⟨rfl, -⟩, -⟩ := passes.served (Progress.resumeState?_some held).1
      exact ⟨requests, w', asks, tasks, schemas, output⟩
    · cases none
  | @resumed registry config d v s s' before departs left ih =>
    obtain ⟨requests, w', asks, holds⟩ := ih
    refine ⟨requests, w', asks, ?_⟩
    rcases Landing.stateAfter_some left with held | ⟨-, same⟩
    · obtain ⟨_, plugins, resolved, -⟩ := resumption_ok departs
      obtain ⟨_, _, _, asked⟩ := asked_of_started (some s) departs resolved
        (Progress.resumeState?_some held).1
      obtain ⟨tasks, schemas, output⟩ := passes_left (resumption_passes departs resolved asked) held
      exact ⟨tasks.trans holds.tasks, schemas.trans holds.schemas, output.trans holds.output⟩
    · cases same
      exact holds

/-- What the output of a transfer does when it is given this schema: in a begun transfer behind the filters,
in a resumed one as soon as the input has asked for it. -/
def outputBegun (plugins : TransferPlugins) (saved : Option ResumeState) (schema : Schema) (count : Nat)
    (behind reached : World) : OutputEvent × World :=
  match saved with
  | none => (plugins.output.transaction plugins.outputConfig schema count).run behind
  | some s => (plugins.output.resume s.outputTask schema count).run reached

/-- Where the filters of a transfer were asked: in itself, or in the one that its state goes back to. -/
def AskedIn (filters : List FilterChoice) (q₀ : InputRequest) (w₀ : World) (q : InputRequest) (w : World) :
    Option ResumeState → Prop
  | none => q₀ = q ∧ w₀ = w
  | some s => GoesBackTo filters q₀ w₀ s

/-- The tasks were launched by this plan. -/
structure Launched (t : Flight) (plugins : TransferPlugins) (first : Schema) (q : InputRequest)
    (requests : List FilterRequest) (plan : TaskPlan) : Prop where
  planned : t.progress.plan plugins = .ok plan
  input : plan.inputSchema = q.schema
  output : plan.outputSchema = first.behind requests
  filters : plan.HasFilters plugins.filters requests
  tasks : ∀ T : FilterTask → Behaviour, (∀ f ∈ plan.filters, f.Behaves (T f)) →
    ∀ o ∈ t.outcomes, plan.Filtered T (q.schema.behind requests) o

/-- In a flight the filters, which have asked for this behind the schema `first`, keep their order. -/
structure InOrder (t : Flight) (plugins : TransferPlugins) (saved : Option ResumeState) (first : Schema)
    (q : InputRequest) (requests : List FilterRequest) (left : List FilterChoice) (behind reached : World) :
    Prop where
  tasks : t.progress.filterTasks = requests.map FilterRequest.task
  schemas : t.progress.filterSchemas = requests.map FilterRequest.schema
  idle : t.progress.hasStarted = false → t.outcomes = []
  served : t.progress.hasStarted = true → left = [] ∧ ∃ plan, Launched t plugins first q requests plan ∧
    ∃ resume w, outputBegun plugins saved plan.outputSchema q.taskCount behind reached =
      (.called plan.outputTask resume, w)

theorem launched {t : Flight} {plan : TaskPlan} {first : Schema} {requests : List FilterRequest}
    (planned : t.progress.plan plugins = .ok plan) (ends : ∀ o ∈ t.outcomes, plan.MayEnd o)
    (input : plan.inputSchema = q.schema) (output : plan.outputSchema = first.behind requests)
    (filters : plan.HasFilters plugins.filters requests) : Launched t plugins first q requests plan where
  planned := planned
  input := input
  output := output
  filters := filters
  tasks := fun _ behaves o mem => (ends o mem).filtered (input ▸ filters.linked) behaves

/-- Filters compose in the order of the config. Those of a begun transfer are asked in this order, each
with the schema that the one before has asked for. In it, and in every transfer that is resumed with the
same filters from a state that it has left, each task opens each filter with its own task and between the
schemas of its place and the output with the schema of the last one, and what it reads passes the filters
in this order. -/
theorem filters_compose_in_order (resolved : TransferPlugins.resolve registry config = .ok plugins)
    (departs : departureFrom registry config saved = .ok d)
    (asked : inputEvent plugins saved (w.beginSession d.exec.pageSize) = (.called q resume, w'))
    (origin : AskedIn plugins.filters q₀ w₀ q w' saved) :
    ∃ requests left w₁, Asks plugins.filters q₀.schema w₀ requests left w₁ ∧
      InOrder (d.fly.run w).1.flight plugins saved q₀.schema q requests left w₁ w' := by
  cases saved with
  | none =>
    obtain ⟨rfl, rfl⟩ := origin
    obtain ⟨requests, left, w₁, asks, passes⟩ := departure_passes departs resolved asked
    refine ⟨requests, left, w₁, asks, passes.tasks, passes.schemas, passes.idle, fun started => ?_⟩
    obtain ⟨task, plan, ⟨rfl, begun⟩, planned, planned', ends⟩ := passes.served started
    obtain rfl := Except.ok.inj planned
    have same : requests.length = plugins.filters.length := asks.length
    exact ⟨rfl, _, launched planned' ends rfl rfl (TaskPlan.hasFilters same rfl), begun⟩
  | some s =>
    obtain ⟨requests, w₁, asks, holds⟩ := origin.asked
    have passes := resumption_passes departs resolved asked
    refine ⟨requests, [], w₁, asks, passes.tasks.trans holds.tasks, passes.schemas.trans holds.schemas,
      passes.idle, fun started => ⟨rfl, ?_⟩⟩
    obtain ⟨task, plan, begun, planned, planned', ends⟩ := passes.served started
    obtain rfl := Except.ok.inj planned
    have same : requests.length = plugins.filters.length := asks.length
    refine ⟨_, launched planned' ends rfl holds.output (TaskPlan.hasFilters same ?_), begun⟩
    rw [stagesOf, ← holds.tasks, ← holds.schemas]
    rfl

section Marks

/-- A page with a record of one number. -/
def markPage (n : Nat) : Page := ⟨⟨0, 64⟩, #[13, 0, 0, 0, 0, UInt8.ofNat n, 0, 0, 0, 0, 0, 0, 0], 1⟩

def markOf (task : Task) : Nat := (task.require "mark" .count).toOption.getD 0

/-- Adds a page behind all others. -/
def marking (page : Page) : FilterStage where
  State := Unit
  initial := ()
  wrap := fun c => FilterStage.passing.wrap { c with
    finish := do
      c.add page
      c.finish }

/-- Renames the columns, and marks the end of the rows. -/
def marker : FilterPlugin where
  transaction := fun config schema =>
    match schema.rename (fun name => some (name ++ "'")) with
    | .error e => Transaction.finish (.error (.schema e))
    | .ok renamed => Transaction.call ⟨config, renamed⟩ .done
  openTask := fun task _ _ => .ok (marking (markPage (markOf task)))

/-- What is made of one call by the stage that adds this page. -/
inductive Marks (page : Page) : ChainCall → List ChainCall → Prop where
  | add (page' : Page) (answer : Attempt Unit) : Marks page (.add page' answer) [.add page' answer]
  | refused (e : PluginError) : Marks page (.finish (.error e)) [.add page (.error e)]
  | finish (answer : Attempt Unit) : Marks page (.finish answer) [.add page (.ok ()), .finish answer]
  | close : Marks page .close [.close]

theorem marking_behaves (page : Page) : (marking page).Behaves fun calls handed =>
    ∃ groups, List.Forall₂ (Marks page) calls groups ∧ groups.flatten = handed := by
  intro σ c calls s t trail
  obtain ⟨_, inner, rfl⟩ := FilterStage.passing_behaves _ trail
  obtain ⟨made, rfl, under, marks⟩ := inner.expands (r := c.Steps) id
    (fun _ call group _ => Marks page call group) fun s call s' h => by
    cases call with
    | add page' answer => exact ⟨[.add page' answer], .single h, .add page' answer⟩
    | close => exact ⟨[.close], .single h, .close⟩
    | finish answer =>
      obtain ⟨⟨added, s₁⟩, first, rest⟩ := Program.canEnd_andThen.mp h
      cases added with
      | error e =>
        cases rest
        exact ⟨[.add page (.error e)], .single first, .refused e⟩
      | ok _ => exact ⟨[.add page (.ok ()), .finish answer], .cons first (.single rest), .finish answer⟩
  refine ⟨made.flatMap Prod.snd, under, made.map Prod.snd, ?_, List.flatMap_def.symm⟩
  rw [List.forall₂_map_left_iff, List.forall₂_map_right_iff, List.forall₂_same]
  exact marks.all

/-- Where all is taken, the page comes last. -/
theorem marks_whole {page : Page} {pages : List Page} {groups : List (List ChainCall)}
    (each : List.Forall₂ (Marks page) (ChainCall.whole pages) groups) :
    groups.flatten = ChainCall.whole (pages ++ [page]) := by
  induction pages generalizing groups with
  | nil =>
    cases each with
    | cons first rest =>
      cases rest with
      | cons second rest =>
        cases first
        cases second
        cases rest
        rfl
  | cons page' pages ih =>
    cases each with
    | cons first rest =>
      cases first
      exact congrArg (.add page' (.ok ()) :: ·) (ih rest)

/-- The rows of a marker: those it is given, then its own mark. -/
def marked (f : FilterTask) (rows : List (List Cell)) : List (List Cell) :=
  rows ++ [[.long (Int64.ofNat (markOf f.task))]]

theorem marker_behaves {f : FilterTask} (plugin : f.plugin = marker) (types : f.inputSchema.SameTypes f.outputSchema)
    (mark : (markPage (markOf f.task)).rows f.inputSchema = .ok [[.long (Int64.ofNat (markOf f.task))]]) :
    f.Behaves (ChangesRows f.inputSchema f.outputSchema (marked f)) := by
  intro stage opens
  unfold FilterTask.Opens at opens
  rw [plugin] at opens
  cases opens
  refine FilterStage.Behaves.mono (marking_behaves (markPage (markOf f.task))) ?_
  rintro _ _ ⟨groups, each, rfl⟩ pages rfl
  refine ⟨_, marks_whole each, fun rows read => Page.rowsOf_append ?_ ?_⟩
  · exact Page.rowsOf_alike (fun page rows => by rw [page.rows_sameTypes types]; exact id) read
  · rw [Page.rows_sameTypes types] at mark
    exact Page.rowsOf_cons.mpr ⟨_, [], mark, rfl, rfl⟩

def marks : Registry := { Rehearsal.registry { badRows := [1] } with filters := [("mark", marker)] }

def markedTwice : Config :=
  ⟨[("in", .obj [("type", .str "mock"), ("tasks", .ofNat 2)]),
    ("filters", .arr [.obj [("type", .str "mark"), ("mark", .ofNat 7)], .obj [("type", .str "mark"), ("mark", .ofNat 8)]]),
    ("out", .obj [("type", .str "mock")])]⟩

def markConfig (n : Nat) : Config := ⟨[("type", .str "mark"), ("mark", .ofNat n)]⟩

theorem marked_plugins : TransferPlugins.resolve marks markedTwice = .ok
    ⟨Rehearsal.input { badRows := [1] }, ⟨[("type", .str "mock"), ("tasks", .ofNat 2)]⟩,
      [⟨marker, markConfig 7⟩, ⟨marker, markConfig 8⟩],
      Rehearsal.output { badRows := [1] }, ⟨[("type", .str "mock")]⟩⟩ := rfl

theorem markPage_rows : ∀ n ∈ [7, 8],
    (markPage n).rows Rehearsal.schema = .ok [[.long (Int64.ofNat n)]] := by
  simp only [List.mem_cons, List.not_mem_nil, or_false, forall_eq_or_imp, forall_eq]
  exact ⟨rfl, rfl⟩

/-- A marker asks with its config for its task, and for a schema of the same types. -/
theorem marker_asks {config : Config} {schema : Schema} {v v' : World} {q : FilterRequest}
    {resume : Attempt Unit → Action (Attempt Unit)}
    (ran : (marker.transaction config schema).run v = (.called q resume, v')) :
    q.task = config ∧ schema.SameTypes q.schema := by
  simp only [marker] at ran
  split at ran
  · cases ran
  · rename_i renamed
    cases ran
    exact ⟨rfl, Schema.rename_sameTypes renamed⟩

/-- Where it is asked in a row with others that keep the types, a marker puts its mark behind the rows. -/
theorem marker_marks {f : FilterTask} {n : Nat} (plugin : f.plugin = marker) (task : f.task = markConfig n)
    (known : n ∈ [7, 8]) (before : Rehearsal.schema.SameTypes f.inputSchema)
    (types : f.inputSchema.SameTypes f.outputSchema) :
    f.Behaves (ChangesRows f.inputSchema f.outputSchema (marked f)) := by
  refine marker_behaves plugin types ?_
  have mark : markOf f.task = n := by
    rw [task]
    rcases List.mem_pair.mp known with rfl | rfl <;> rfl
  rw [mark, ← Page.rows_sameTypes before]
  exact markPage_rows n known

/-- Of a transfer with two markers one task fails; it goes on from the state that is left. -/
theorem run_marked : ∃ d s d', departure marks markedTwice = .ok d ∧
    (d.fly.run default).1.flight.progress.hasStarted = true ∧ (d.fly.run default).1.stateAfter none = some s ∧
    resumption marks markedTwice s = .ok d' ∧ (d'.fly.run default).1.flight.progress.hasStarted = true := by
  have rehearsed : ((departure marks markedTwice).toOption.any fun d =>
      (d.fly.run default).1.flight.progress.hasStarted && ((d.fly.run default).1.stateAfter none).any fun s =>
        (resumption marks markedTwice s).toOption.any fun d' =>
          (d'.fly.run default).1.flight.progress.hasStarted) = true := by decide +kernel
  cases departs : departure marks markedTwice with
  | error e => simp [departs, Except.toOption] at rehearsed
  | ok d =>
    simp only [departs, Except.toOption, Option.any_some, Bool.and_eq_true] at rehearsed
    obtain ⟨started, rehearsed⟩ := rehearsed
    cases left : (d.fly.run default).1.stateAfter none with
    | none => simp [left] at rehearsed
    | some s =>
      simp only [left, Option.any_some] at rehearsed
      cases again : resumption marks markedTwice s with
      | error e => simp [again] at rehearsed
      | ok d' =>
        simp only [again, Option.any_some] at rehearsed
        exact ⟨d, s, d', rfl, started, left, again, rehearsed⟩

/-- The marks of both filters come last, in the order of the filters, which they keep when the transfer is
resumed. -/
theorem marks_follow_each_other : ∃ plugins d q resume w' requests w₁ plan,
    TransferPlugins.resolve marks markedTwice = .ok plugins ∧ departure marks markedTwice = .ok d ∧
    inputEvent plugins none (World.beginSession default d.exec.pageSize) = (.called q resume, w') ∧
    Asks plugins.filters q.schema w' requests [] w₁ ∧
    Launched (d.fly.run default).1.flight plugins q.schema q requests plan ∧
    (∀ o ∈ (d.fly.run default).1.flight.outcomes, plan.Filtered
      (fun f => ChangesRows f.inputSchema f.outputSchema (marked f)) plan.outputSchema o) ∧
    (∀ rows, plan.filters.foldl (fun rows f => marked f rows) rows = rows ++ [[.long 7], [.long 8]]) ∧
    ∃ s d' q' resume' w'', (d.fly.run default).1.stateAfter none = some s ∧
      resumption marks markedTwice s = .ok d' ∧
      inputEvent plugins (some s) (World.beginSession default d'.exec.pageSize) = (.called q' resume', w'') ∧
      (d'.fly.run default).1.flight.progress.hasStarted = true ∧
      ∃ requests' left' w₂, Asks plugins.filters q.schema w' requests' left' w₂ ∧
        InOrder (d'.fly.run default).1.flight plugins (some s) q.schema q' requests' left' w₂ w'' := by
  obtain ⟨d, s, d', departs, rehearsed, stays, again, resumed⟩ := run_marked
  have begun : departureFrom marks markedTwice none = .ok d := departs
  have continues : departureFrom marks markedTwice (some s) = .ok d' := again
  obtain ⟨q, resume, w', asked⟩ := asked_of_started none begun marked_plugins rehearsed
  have columns : q.schema = Rehearsal.schema := by
    cases asked
    rfl
  obtain ⟨requests, left, w₁, asks, order⟩ :=
    filters_compose_in_order marked_plugins begun asked ⟨rfl, rfl⟩
  obtain ⟨rfl, plan, launched, -⟩ := order.served rehearsed
  obtain ⟨q₁, q₂, rfl⟩ := List.length_eq_two.mp launched.filters.count.1
  obtain ⟨f₁, f₂, row⟩ := List.length_eq_two.mp launched.filters.count.2
  obtain ⟨_, _, _, ran₁⟩ := asks.given_at (i := 0) rfl rfl
  obtain ⟨_, _, _, ran₂⟩ := asks.given_at (i := 1) rfl rfl
  obtain ⟨task₁, types₁⟩ := marker_asks ran₁
  obtain ⟨task₂, types₂⟩ := marker_asks ran₂
  have place₁ := launched.filters.place 0 _ _ rfl rfl
  have place₂ := launched.filters.place 1 _ _ rfl rfl
  simp only [row, List.getElem?_cons_zero, List.getElem?_cons_succ, Option.some.injEq] at place₁ place₂
  subst place₁ place₂
  have first : plan.inputSchema = Rehearsal.schema := launched.input.trans columns
  have second : Rehearsal.schema.SameTypes q₁.schema := columns ▸ types₁
  obtain ⟨q', resume', w'', asked'⟩ := asked_of_started (some s) continues marked_plugins resumed
  have origin : GoesBackTo [⟨marker, markConfig 7⟩, ⟨marker, markConfig 8⟩] q w' s :=
    .begun departs marked_plugins rfl asked stays
  refine ⟨_, d, q, resume, w', [q₁, q₂], w₁, plan, marked_plugins, departs, asked, asks, launched, ?_,
    fun rows => ?_, s, d', q', resume', w'', stays, again, asked', resumed,
    filters_compose_in_order marked_plugins continues asked' origin⟩
  · rw [launched.output]
    refine launched.tasks _ fun f mem => ?_
    rw [row] at mem
    rcases List.mem_pair.mp mem with rfl | rfl
    · refine marker_marks (n := 7) rfl task₁ (by decide) ?_ ?_
      · exact first ▸ .refl _
      · exact first ▸ second
    · exact marker_marks (n := 8) rfl task₂ (by decide) second types₂
  · have mark₁ : markOf q₁.task = 7 := task₁ ▸ rfl
    have mark₂ : markOf q₂.task = 8 := task₂ ▸ rfl
    simp only [row, List.foldl_cons, List.foldl_nil, marked, mark₁, mark₂, List.append_assoc]
    rfl

end Marks

end Executor

end BulkTransfer
