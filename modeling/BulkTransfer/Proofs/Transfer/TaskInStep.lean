import BulkTransfer.Proofs.Plugin.Building
import BulkTransfer.Proofs.Transfer.Task
/-!
# A task in step with itself

A task that can tell where its paths lead, whatever the others do, takes the same steps in worlds that
it cannot tell apart: it reads the same rows, makes the same pages of them, and its sink treats these
alike.
-/
namespace BulkTransfer

namespace Ltsv

open Building (InStep)

variable {s : Site} {o : Options} {schema : Schema} {b b' : PageBuilder}

theorem addLine_inStep (o : Options) (schema : Schema) (line : String) (like : b.Like b') :
    InStep s Eq (addLine o schema line) b (addLine o schema line) b' := by
  refine InStep.bind (r := Eq) (InStep.ofAttempt (Attempt.rel_eq.mpr rfl) like) ?_
  rintro fields _ b b' rfl like
  refine InStep.bind (r := Eq) (InStep.forIn (fun c _ b b' like => ?_) like)
    fun _ _ b b' _ like => Building.addRecord_inStep like
  refine InStep.bind (r := Eq) (InStep.ofAttempt (Attempt.rel_eq.mpr rfl) like) ?_
  rintro cell _ b b' rfl like
  exact InStep.bind (r := Eq) (Building.set_inStep c.index cell like)
    fun _ _ b b' _ like => InStep.pure rfl like

theorem addLines_inStep (o : Options) (schema : Schema) (lines : List (Attempt String))
    (like : b.Like b') : InStep s Eq (addLines o schema lines) b (addLines o schema lines) b' := by
  refine InStep.bind (r := Eq) (InStep.forIn (fun line _ b b' like => ?_) like)
    fun _ _ b b' _ like => InStep.pure rfl like
  refine InStep.bind (r := Eq) (InStep.ofAttempt (Attempt.rel_eq.mpr rfl) like) ?_
  rintro text _ b b' rfl like
  by_cases blank : text.isEmpty
  · simp only [blank, Bool.not_true, Bool.false_eq_true, if_false]
    exact InStep.pure rfl like
  · simp only [blank, Bool.not_false, if_true]
    exact InStep.bind (r := Eq) (addLine_inStep o schema text like)
      fun _ _ b b' _ like => InStep.pure rfl like

theorem openFile_repeats (cut : LocalInput.Cutting) {path : String} (known : s.Knows path) :
    (cut.openFile path).Repeats s fun _ => True := by
  refine Program.Repeats.andThen (P := fun _ => True) (Program.Repeats.onDisk ?_) ?_
  · intro d d' launched spared
    have same := spared.read (s.steady.agrees launched) (known.sameWay launched spared)
    exact ⟨Disk.read_agrees d path _, same, trivial⟩
  · intro answer _
    cases answer with
    | ok content => exact .done trivial
    | error cause => cases cause <;> exact .done trivial

/-- Wherever the file is known, the same pages are made of it. -/
theorem feed_inStep (o : Options) (schema : Schema) (cut : LocalInput.Cutting) {path : String}
    (known : s.Knows path) :
    Program.InStep s Page.Like Eq (feed o schema cut path) (feed o schema cut path) := by
  have reads : ∀ b b', b.Like b' → InStep s Eq (readFiles o schema [cut.openFile path]) b
      (readFiles o schema [cut.openFile path]) b' := by
    intro b b' like
    refine InStep.bind (r := Eq) (InStep.forIn (fun opening hm b b' like => ?_) like)
      fun _ _ b b' _ like => InStep.pure rfl like
    obtain rfl := List.mem_singleton.mp hm
    refine InStep.bind (r := Eq) (InStep.ofAction (openFile_repeats cut known).inStep like) ?_
    rintro polls _ b b' rfl like
    refine InStep.bind (r := Eq) (addLines_inStep o schema _ like) fun _ _ b b' _ like => ?_
    exact InStep.bind (r := Eq) (Building.flush_inStep like)
      fun _ _ b b' _ like => InStep.pure rfl like
  refine (Building.build_inStep reads).andThen ?_
  rintro answer _ rfl
  cases answer <;> rfl

end Ltsv

variable {σ : Type} {s : Site}

/-- As long as its state is one of these, a sink takes the same steps where it cannot tell, and treats
pages with the same records alike. -/
structure PageSink.Repeats (sink : PageSink σ) (s : Site) (initial : σ) (I : σ → Prop) : Prop where
  start : (sink.start.attempt initial).Repeats s fun x => I x.2
  same : ∀ {p q : Page}, p.Like q → sink.add p = sink.add q
  add : ∀ page {st}, I st → ((sink.add page).attempt st).Repeats s fun x => I x.2
  finish : ∀ {st}, I st → (sink.finish.attempt st).Repeats s fun x => I x.2
  commit : ∀ {st}, I st → (sink.commit.attempt st).Repeats s fun x => I x.2
  abort : ∀ {st}, I st → (sink.abort st).Repeats s fun x => I x.2
  close : ∀ {st}, I st → (sink.close st).Repeats s fun x => I x.2

namespace TaskPlan

variable {p : TaskPlan} {index : Nat} {sink : PageSink σ} {initial st : σ} {I : σ → Prop}
  {o : Ltsv.Options} {schema : Schema} {cut : LocalInput.Cutting} {path : String}

theorem abort_repeats (h : sink.Repeats s initial I) (hi : I st) (outcome : TaskOutcome) :
    (((do
      sink.abort
      sink.close
      return outcome) : SureCall σ TaskOutcome) st).Repeats s fun _ => True :=
  (h.abort hi).andThen fun _ hi => (h.close hi).andThen fun _ _ => .done trivial

theorem settle_repeats (h : sink.Repeats s initial I) (hi : I st) (report : Report) :
    (settle sink index report st).Repeats s fun _ => True := by
  refine (h.commit hi).andThen ?_
  rintro ⟨answer, st⟩ hi
  cases answer with
  | error e => exact abort_repeats h hi _
  | ok _ => exact (h.close hi).andThen fun _ _ => .done trivial

theorem feedChain_repeats {stage : FilterStage} (transparent : stage.IsTransparent)
    (fed : p.input.run p.inputTask p.inputSchema index = Ltsv.feed o schema cut path)
    (known : s.Knows path) (h : sink.Repeats s initial I) (x : stage.State) (hi : I st) :
    (p.feedChain index (stage.wrap sink.asChain) (x, st)).Repeats s fun y => I y.2.2 := by
  obtain ⟨add, finish, close⟩ := transparent sink.asChain
  have closes : ∀ (x : stage.State) {st : σ}, I st →
      ((stage.wrap sink.asChain).close (x, st)).Repeats s fun y => I y.2.2 := by
    intro x st hi
    rw [close]
    exact .done hi
  have received : ((stage.wrap sink.asChain).receive (Ltsv.feed o schema cut path) (x, st)).Repeats s
      fun y => I y.2.2 := by
    rw [PageChain.receive, Program.answered_behind (fun page x st => add page x st)]
    refine ((Ltsv.feed_inStep o schema cut known).answered (fun q q' like st hi => ?_) hi).andThen ?_
    · change Program.InStep s Eq _ ((sink.add q).attempt st) ((sink.add q').attempt st)
      rw [← h.same like]
      exact h.add q hi
    · rintro ⟨answer, st⟩ ⟨_, _⟩ ⟨rfl, rfl, hi⟩
      exact ⟨rfl, hi⟩
  unfold feedChain
  rw [fed]
  refine received.andThen ?_
  rintro ⟨answer, x, st⟩ hi
  rcases answer with (e | text) | report
  · exact (closes x hi).andThen fun y hi => .done hi
  · exact .done hi
  · refine Program.Repeats.andThen (P := fun y => I y.2.2) ?_ ?_
    · rw [finish]
      exact (h.finish hi).andThen fun y hi => .done hi
    · rintro ⟨result, x, st⟩ hi
      exact (closes x hi).andThen fun y hi => .done hi

theorem performIn_repeats {stage : FilterStage} (opened : openFilters p.filters = .ok stage)
    (transparent : stage.IsTransparent)
    (fed : p.input.run p.inputTask p.inputSchema index = Ltsv.feed o schema cut path)
    (known : s.Knows path) (h : sink.Repeats s initial I) :
    (p.performIn index sink initial).Repeats s fun _ => True := by
  refine h.start.andThen ?_
  rintro ⟨answer, st⟩ hi
  cases answer with
  | error e => exact .done trivial
  | ok _ =>
    have reads : (p.readInput index sink st).Repeats s fun y => I y.2 := by
      unfold readInput
      rw [opened]
      exact (feedChain_repeats transparent fed known h stage.initial hi).andThen fun y hi => .done hi
    refine reads.andThen ?_
    rintro ⟨answer, st⟩ hi
    match answer with
    | .error (.panicked text) => exact .done trivial
    | .error (.failed e) => exact abort_repeats h hi _
    | .ok report => exact settle_repeats h hi report

/-- A task whose file is known, and whose sink is in step with itself, is in step with itself. -/
theorem perform_repeats {stage : FilterStage} (opened : openFilters p.filters = .ok stage)
    (transparent : stage.IsTransparent)
    (fed : p.input.run p.inputTask p.inputSchema index = Ltsv.feed o schema cut path)
    (opens : p.output.openTask p.outputTask p.outputSchema index = .ok ⟨σ, sink, initial⟩)
    (known : s.Knows path) (h : sink.Repeats s initial I) :
    (p.perform index).Repeats s fun _ => True := by
  unfold perform
  rw [opens]
  exact (performIn_repeats opened transparent fed known h).andThen fun _ _ => .done trivial

end TaskPlan

end BulkTransfer
