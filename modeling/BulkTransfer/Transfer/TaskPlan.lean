import BulkTransfer.Plugin.Input
import BulkTransfer.Plugin.Output
/-!
# Tasks

One task of a transfer: its part of the input is read through the filters into its part of the
output, which then commits. Errors end in the outcome and are never raised. The output is committed
or aborted, and closed in the end; only a panic leaves it as it is.
-/
namespace BulkTransfer

/-- A filter with its frozen task and the schemas on both of its sides. -/
structure FilterTask where
  plugin : FilterPlugin
  task : Task
  inputSchema : Schema
  outputSchema : Schema

/-- How a task ended. A side's report is present when that side committed. -/
structure TaskOutcome where
  index : Nat
  inputReport : Option Report
  outputReport : Option Report
  error : Option PluginError
  deriving Repr

namespace TaskOutcome

def isCommitted (o : TaskOutcome) : Bool :=
  o.error.isNone && o.inputReport.isSome && o.outputReport.isSome

def failed (index : Nat) (cause : PluginError) : TaskOutcome := ⟨index, none, none, some cause⟩

end TaskOutcome

/-- All that the tasks of a transfer need, frozen when the last transaction has begun. -/
structure TaskPlan where
  input : InputPlugin
  inputTask : Task
  inputSchema : Schema
  filters : List FilterTask
  output : OutputPlugin
  outputTask : Task
  outputSchema : Schema

namespace TaskPlan

/-- Opens filters, the last one first. -/
def openFilters : List FilterTask → Attempt FilterStage
  | [] => .ok .passing
  | f :: rest =>
    match openFilters rest with
    | .error e => .error e
    | .ok inner =>
      match f.plugin.openTask f.task f.inputSchema f.outputSchema with
      | .ok stage => .ok (stage.followedBy inner)
      | .error e => .error e

/-- Reads the input into a chain, finishes the chain, and closes it unless the input panicked. -/
def feedChain {σ : Type} (p : TaskPlan) (index : Nat) (chain : PageChain σ) :
    SureCall σ (Except RunFault Report) := do
  let fed ← chain.receive (p.input.run p.inputTask p.inputSchema index)
  match fed with
  | .error (.panicked text) => return .error (.panicked text)
  | .error (.failed e) =>
    chain.close
    return .error (.failed e)
  | .ok report =>
    let finished ← chain.finish.attempt
    chain.close
    return (finished.map fun () => report).mapError .failed

/-- Reads the input through the filters into an open output. -/
def readInput (p : TaskPlan) (index : Nat) {σ : Type} (sink : PageSink σ) :
    SureCall σ (Except RunFault Report) := fun s =>
  match openFilters p.filters with
  | .error e => .done (.error (.failed e), s)
  | .ok stage =>
    (p.feedChain index (stage.wrap sink.asChain) (stage.initial, s)).andThen fun (r, (_, s)) =>
      .done (r, s)

/-- The call succeeds or the sink is aborted; it is closed in the end. -/
def settle {σ : Type} (sink : PageSink σ) (index : Nat) (report : Report) :
    SureCall σ TaskOutcome := do
  match ← sink.commit.attempt with
  | .ok outputReport =>
    sink.close
    return ⟨index, some report, some outputReport, none⟩
  | .error e =>
    sink.abort
    sink.close
    return ⟨index, some report, none, some e⟩

def performIn {σ : Type} (p : TaskPlan) (index : Nat) (sink : PageSink σ) :
    SureCall σ TaskOutcome := do
  match ← sink.start.attempt with
  | .error e => return .failed index e
  | .ok () =>
    match ← p.readInput index sink with
    | .error (.panicked text) => return .failed index (.panicked text)
    | .error (.failed e) =>
      sink.abort
      sink.close
      return .failed index e
    | .ok report => settle sink index report

def perform (p : TaskPlan) (index : Nat) : Action TaskOutcome :=
  match p.output.openTask p.outputTask p.outputSchema index with
  | .error e => .done (.failed index e)
  | .ok o => (p.performIn index o.sink o.initial).andThen fun (outcome, _) => .done outcome

end TaskPlan

end BulkTransfer
