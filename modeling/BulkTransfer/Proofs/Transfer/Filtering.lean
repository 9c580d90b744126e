import BulkTransfer.Proofs.Plugin.Passage
import BulkTransfer.Proofs.Transfer.Settling
/-!
# What reaches the output of a task

The filters of a task are opened each with its own task, between the schemas on its two sides, and stand
in a row. What the input offers passes the first of them, then the next, and what the last one hands on
is what the output is told, whether all goes well or not.
-/
namespace BulkTransfer

namespace FilterTask

/-- The filter opens like this with its own task, between its own schemas. -/
def Opens (f : FilterTask) (stage : FilterStage) : Prop :=
  f.plugin.openTask f.task f.inputSchema f.outputSchema = .ok stage

/-- Once it is open, the filter makes this of the calls on it. -/
def Behaves (f : FilterTask) (T : Behaviour) : Prop := ∀ stage, f.Opens stage → stage.Behaves T

/-- Filters in a row, from a schema to a schema: each has the one that the filter before it leaves. -/
inductive Linked : Schema → List FilterTask → Schema → Prop where
  | nil (schema : Schema) : Linked schema [] schema
  | cons {f : FilterTask} {rest : List FilterTask} {last : Schema} (behind : Linked f.outputSchema rest last) :
      Linked f.inputSchema (f :: rest) last

variable {filters : List FilterTask} {T : FilterTask → Behaviour}

/-- Filters that stand in a row behave one after the other. -/
theorem row_behaves {stages : List FilterStage} (opens : List.Forall₂ Opens filters stages)
    (behaves : ∀ f ∈ filters, f.Behaves (T f)) :
    (stages.foldr FilterStage.followedBy .passing).Behaves (Through (filters.map T)) := by
  induction opens with
  | nil => exact FilterStage.passing_behaves
  | @cons f stage rest stages first _ ih =>
    exact FilterStage.Behaves.followedBy (behaves f List.mem_cons_self stage first)
      (ih fun other mem => behaves other (List.mem_cons_of_mem f mem))

/-- Where everything is taken, the rows are changed by the first filter, then by the second, and so on. -/
theorem Linked.rows_through {first last : Schema} {R : FilterTask → List (List Cell) → List (List Cell)}
    (linked : Linked first filters last)
    (changes : ∀ f ∈ filters, ∀ calls handed, T f calls handed →
      ChangesRows f.inputSchema f.outputSchema (R f) calls handed)
    {calls handed : List ChainCall} (passes : Through (filters.map T) calls handed) :
    ChangesRows first last (fun rows => filters.foldl (fun rows f => R f rows) rows) calls handed := by
  induction linked generalizing calls with
  | nil schema =>
    cases passes
    exact changesRows_id (fun _ _ => id) _
  | @cons f rest last _ ih =>
    rintro pages rfl
    obtain ⟨between, made, behind⟩ := passes
    obtain ⟨middle, rfl, changed⟩ := changes f List.mem_cons_self _ _ made pages rfl
    obtain ⟨pages', rfl, changed'⟩ :=
      ih (fun other mem => changes other (List.mem_cons_of_mem f mem)) behind middle rfl
    exact ⟨pages', rfl, fun rows read => changed' _ (changed rows read)⟩

end FilterTask

/-- What is still called when the input has ended like this, and what its reading then comes to. -/
inductive ReadEnds : Except RunFault Report → List ChainCall → Except RunFault Report → Prop where
  | panicked (text : String) : ReadEnds (.error (.panicked text)) [] (.error (.panicked text))
  | failed (e : PluginError) : ReadEnds (.error (.failed e)) [.close] (.error (.failed e))
  | refused (report : Report) (e : PluginError) :
      ReadEnds (.ok report) [.finish (.error e), .close] (.error (.failed e))
  | finished (report : Report) : ReadEnds (.ok report) [.finish (.ok ()), .close] (.ok report)

namespace TaskPlan

variable {σ : Type} {p : TaskPlan} {index : Nat} {c : PageChain σ} {k : PageSink σ} {s s' : σ}
  {filters : List FilterTask} {T : FilterTask → Behaviour} {read : Except RunFault Report}
  {o : TaskOutcome}

/-- Filters open when each of them does. -/
theorem openFilters_ok {stage : FilterStage} (opened : openFilters filters = .ok stage) :
    ∃ stages, List.Forall₂ FilterTask.Opens filters stages ∧
      stage = stages.foldr .followedBy .passing := by
  induction filters generalizing stage with
  | nil =>
    cases opened
    exact ⟨[], .nil, rfl⟩
  | cons f rest ih =>
    rw [openFilters] at opened
    cases inner : openFilters rest with
    | error e => simp [inner] at opened
    | ok second =>
      cases outer : f.plugin.openTask f.task f.inputSchema f.outputSchema with
      | error e => simp [inner, outer] at opened
      | ok first =>
        simp only [inner, outer, Except.ok.injEq] at opened
        obtain ⟨stages, each, rfl⟩ := ih inner
        exact ⟨first :: stages, .cons outer each, opened.symm⟩

theorem feedChain_canEnd (h : (p.feedChain index c s).CanEnd (read, s')) :
    ∃ fed offered ended, (p.input.run p.inputTask p.inputSchema index).Talks offered fed ∧
      ReadEnds fed ended read ∧
        Trail c.Steps s (offered.map (fun x => .add x.1 x.2) ++ ended) s' := by
  obtain ⟨⟨fed, s₁⟩, receives, h⟩ := Program.canEnd_andThen.mp h
  obtain ⟨offered, talks, trail⟩ := PageChain.receive_canEnd receives
  match fed with
  | .error (.panicked text) =>
    cases h
    exact ⟨_, offered, [], talks, .panicked text, by rwa [List.append_nil]⟩
  | .error (.failed e) =>
    obtain ⟨⟨_, s₂⟩, closes, ⟨⟩⟩ := Program.canEnd_andThen.mp h
    exact ⟨_, offered, [.close], talks, .failed e, trail.append (.single closes)⟩
  | .ok report =>
    obtain ⟨⟨finished, s₂⟩, finishes, h⟩ := Program.canEnd_andThen.mp h
    obtain ⟨⟨_, s₃⟩, closes, ⟨⟩⟩ := Program.canEnd_andThen.mp h
    have ends : Trail c.Steps s₁ [.finish finished, .close] s' := .cons finishes (.single closes)
    cases finished with
    | error e => exact ⟨_, offered, _, talks, .refused report e, trail.append ends⟩
    | ok _ => exact ⟨_, offered, _, talks, .finished report, trail.append ends⟩

/-- A task reads its input: the filters are open, the input has offered pages and has come to an end, and
what the filters have made of this in turn is what the sink was told. -/
structure Conveys (p : TaskPlan) (index : Nat) (T : FilterTask → Behaviour) (k : PageSink σ) (s : σ)
    (offered : List (Page × Attempt Unit)) (ended handed : List ChainCall)
    (read : Except RunFault Report) (s' : σ) : Prop where
  opens : ∃ stages, List.Forall₂ FilterTask.Opens p.filters stages
  input : ∃ fed, (p.input.run p.inputTask p.inputSchema index).Talks offered fed ∧ ReadEnds fed ended read
  passes : Through (p.filters.map T) (offered.map (fun x => .add x.1 x.2) ++ ended) handed
  told : Trail k.asChain.Steps s handed s'

theorem readInput_canEnd (behaves : ∀ f ∈ p.filters, f.Behaves (T f))
    (h : (p.readInput index k s).CanEnd (read, s')) :
    (∃ e, openFilters p.filters = .error e ∧ read = .error (.failed e) ∧ s' = s) ∨
      ∃ offered ended handed, p.Conveys index T k s offered ended handed read s' := by
  unfold readInput at h
  cases opened : openFilters p.filters with
  | error e =>
    simp only [opened] at h
    cases h
    exact .inl ⟨e, rfl, rfl, rfl⟩
  | ok stage =>
    simp only [opened] at h
    obtain ⟨⟨read, u, s₁⟩, feeds, ⟨⟩⟩ := Program.canEnd_andThen.mp h
    obtain ⟨stages, opens, rfl⟩ := openFilters_ok opened
    obtain ⟨fed, offered, ended, talks, ends, trail⟩ := feedChain_canEnd feeds
    obtain ⟨handed, told, passes⟩ := FilterTask.row_behaves opens behaves k.asChain trail
    exact .inr ⟨offered, ended, handed, ⟨stages, opens⟩, ⟨fed, talks, ends⟩, passes, told⟩

/-- The task does not come to read its input. -/
inductive Refuses (p : TaskPlan) (index : Nat) (e : PluginError) : Prop where
  | output (refused : p.output.openTask p.outputTask p.outputSchema index = .error e)
  | start {out : PageOutput} {s : out.State}
      (opened : p.output.openTask p.outputTask p.outputSchema index = .ok out)
      (refused : (out.sink.start.attempt out.initial).CanEnd (.error e, s))
  | filters (refused : openFilters p.filters = .error e)

/-- A task that has opened its output for the schema of its plan reads its input into it, and then settles
the output. -/
inductive Carries (p : TaskPlan) (index : Nat) (T : FilterTask → Behaviour)
    (offered : List (Page × Attempt Unit)) (ended handed : List ChainCall) (o : TaskOutcome) : Prop where
  | intro {out : PageOutput} {s s' s'' : out.State} {read : Except RunFault Report}
      (opened : p.output.openTask p.outputTask p.outputSchema index = .ok out)
      (started : (out.sink.start.attempt out.initial).CanEnd (.ok (), s))
      (reads : p.Conveys index T out.sink s offered ended handed read s')
      (settles : (settleRead out.sink index read s').CanEnd (o, s''))

/-- The report of the input is told exactly when its reading has gone well. -/
theorem settleRead_canEnd (h : (settleRead k index read s).CanEnd (o, s')) :
    o.inputReport = read.toOption := by
  match read with
  | .error (.panicked text) =>
    cases h
    rfl
  | .error (.failed e) =>
    obtain ⟨_, _, h⟩ := Program.canEnd_andThen.mp h
    obtain ⟨_, _, ⟨⟩⟩ := Program.canEnd_andThen.mp h
    rfl
  | .ok report =>
    obtain ⟨⟨answer, s₁⟩, _, h⟩ := Program.canEnd_andThen.mp h
    cases answer with
    | ok outputReport =>
      obtain ⟨_, _, ⟨⟩⟩ := Program.canEnd_andThen.mp h
      rfl
    | error e =>
      obtain ⟨_, _, h⟩ := Program.canEnd_andThen.mp h
      obtain ⟨_, _, ⟨⟩⟩ := Program.canEnd_andThen.mp h
      rfl

theorem perform_canEnd (behaves : ∀ f ∈ p.filters, f.Behaves (T f)) (h : (p.perform index).CanEnd o) :
    (∃ e, p.Refuses index e ∧ o = .failed index e) ∨
      ∃ offered ended handed, p.Carries index T offered ended handed o := by
  unfold perform at h
  cases opened : p.output.openTask p.outputTask p.outputSchema index with
  | error e =>
    simp only [opened] at h
    exact .inl ⟨e, .output opened, h.symm⟩
  | ok out =>
    simp only [opened] at h
    obtain ⟨⟨o, s'⟩, performs, ⟨⟩⟩ := Program.canEnd_andThen.mp h
    obtain ⟨⟨start, s⟩, starts, h⟩ := Program.canEnd_andThen.mp performs
    cases start with
    | error e =>
      cases h
      exact .inl ⟨e, .start opened starts, rfl⟩
    | ok _ =>
      obtain ⟨⟨read, s₁⟩, reads, h⟩ := Program.canEnd_andThen.mp h
      have settles : (settleRead out.sink index read s₁).CanEnd (o, s') := by
        match read with
        | .error (.panicked text) => exact h
        | .error (.failed e) => exact h
        | .ok report => exact h
      rcases readInput_canEnd behaves reads with ⟨e, refused, rfl, rfl⟩ | ⟨offered, ended, handed, reads⟩
      · obtain ⟨_, _, closes⟩ := Program.canEnd_andThen.mp settles
        obtain ⟨_, _, ⟨⟩⟩ := Program.canEnd_andThen.mp closes
        exact .inl ⟨e, .filters refused, rfl⟩
      · exact .inr ⟨offered, ended, handed, .intro opened starts reads settles⟩

/-- Where the input and the chain have gone well and all pages were taken, these were the calls. -/
theorem Carries.whole {offered : List (Page × Attempt Unit)} {ended handed : List ChainCall}
    (carries : p.Carries index T offered ended handed o) (reported : o.inputReport.isSome)
    (taken : ∀ x ∈ offered, x.2 = .ok ()) :
    offered.map (fun x => .add x.1 x.2) ++ ended = ChainCall.whole (offered.map Prod.fst) := by
  obtain ⟨-, -, reads, settles⟩ := carries
  obtain ⟨fed, -, ends⟩ := reads.input
  rw [settleRead_canEnd settles] at reported
  cases ends with
  | finished report =>
    rw [ChainCall.whole, List.map_map]
    refine congrArg (· ++ _) (List.map_congr_left fun x mem => ?_)
    rw [Function.comp_apply, taken x mem]
  | _ => cases reported

/-- The rows that a task reads reach its output through its filters. -/
theorem Carries.rows {offered : List (Page × Attempt Unit)} {ended handed : List ChainCall} {last : Schema}
    {R : FilterTask → List (List Cell) → List (List Cell)}
    (carries : p.Carries index T offered ended handed o)
    (linked : FilterTask.Linked p.inputSchema p.filters last)
    (changes : ∀ f ∈ p.filters, ∀ calls handed, T f calls handed →
      ChangesRows f.inputSchema f.outputSchema (R f) calls handed)
    (reported : o.inputReport.isSome) (taken : ∀ x ∈ offered, x.2 = .ok ()) :
    ∃ pages, handed = ChainCall.whole pages ∧
      ∀ rows, Page.rowsOf p.inputSchema (offered.map Prod.fst) = .ok rows →
        Page.rowsOf last pages = .ok (p.filters.foldl (fun rows f => R f rows) rows) := by
  have whole := carries.whole reported taken
  obtain ⟨-, -, reads, -⟩ := carries
  exact linked.rows_through changes reads.passes _ whole

end TaskPlan

end BulkTransfer
