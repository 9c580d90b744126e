import BulkTransfer.Config.Document
import BulkTransfer.Page.Writer
import BulkTransfer.Plugin.Error
import BulkTransfer.World.Program
/-!
# Sinks

Where the pages and the bytes of a task go. A sink is a machine: it has a state, and each call may
change the state and the world, and may fail. Whoever opened a sink ends it with a commit or an
abort, and closes it.
-/
namespace BulkTransfer

/-- A call on a machine with state `σ` that may fail; the state is kept also then. -/
abbrev Call (σ : Type) := ExceptT PluginError (StateT σ Action)

/-- A call that cannot fail. -/
abbrev SureCall (σ : Type) := StateT σ Action

namespace Call

variable {σ τ α : Type}

/-- The call, with its failure as a value. -/
def attempt (c : Call σ α) : SureCall σ (Attempt α) := c.run

def ofAction (a : Action (Attempt α)) : Call σ α := ExceptT.mk (StateT.lift a)

def ofAttempt (a : Attempt α) : Call σ α := ofAction (.done a)

/-- A call on a part of a larger state. -/
def zoom (get : τ → σ) (set : σ → τ → τ) (c : Call σ α) : Call τ α :=
  ExceptT.mk fun t => do
    let (r, s) ← c.run (get t)
    return (r, set s t)

end Call

def SureCall.zoom {σ τ α : Type} (get : τ → σ) (set : σ → τ → τ) (c : SureCall σ α) :
    SureCall τ α := fun t => do
  let (r, s) ← c (get t)
  return (r, set s t)

/-- Receives pages in order, then the end. -/
structure PageChain (σ : Type) where
  add : Page → Call σ Unit
  finish : Call σ Unit
  close : SureCall σ Unit

/-- The end of a task's chain. `start` is its opening. -/
structure PageSink (σ : Type) where
  start : Call σ Unit
  add : Page → Call σ Unit
  finish : Call σ Unit
  commit : Call σ Report
  abort : SureCall σ Unit
  close : SureCall σ Unit

/-- The sink as the last link of a chain. Closing the chain leaves the sink open for its commit. -/
def PageSink.asChain {σ : Type} (s : PageSink σ) : PageChain σ :=
  ⟨s.add, s.finish, pure ()⟩

structure PageOutput where
  State : Type
  sink : PageSink State
  initial : State

/-- Receives the bytes of files, one file after the other. -/
structure FileSink (σ : Type) where
  nextFile : Call σ Unit
  add : Bytes → Call σ Unit
  finish : Call σ Unit
  commit : Call σ Report
  abort : SureCall σ Unit
  close : SureCall σ Unit

structure FileOutput where
  State : Type
  sink : FileSink State
  initial : State

/-- Changes all bytes on their way to the files. -/
def FileOutput.mapBytes (o : FileOutput) (f : Bytes → Bytes) : FileOutput :=
  { o with sink := { o.sink with add := fun data => o.sink.add (f data) } }

/-- What a filter does between a chain and what comes before it. -/
structure FilterStage where
  State : Type
  initial : State
  wrap : {σ : Type} → PageChain σ → PageChain (State × σ)

namespace FilterStage

/-- Lets everything pass. -/
def passing : FilterStage where
  State := Unit
  initial := ()
  wrap := fun c =>
    ⟨fun page => (c.add page).zoom Prod.snd fun s t => (t.1, s),
      c.finish.zoom Prod.snd fun s t => (t.1, s),
      SureCall.zoom Prod.snd (fun s t => (t.1, s)) c.close⟩

def regroup {α β σ : Type} (c : PageChain (α × β × σ)) : PageChain ((α × β) × σ) :=
  let get : (α × β) × σ → α × β × σ := fun t => (t.1.1, t.1.2, t.2)
  let set : α × β × σ → (α × β) × σ → (α × β) × σ := fun s _ => ((s.1, s.2.1), s.2.2)
  ⟨fun page => (c.add page).zoom get set, c.finish.zoom get set, SureCall.zoom get set c.close⟩

/-- Pages pass the first stage, then the second. -/
def followedBy (first second : FilterStage) : FilterStage where
  State := first.State × second.State
  initial := (first.initial, second.initial)
  wrap := fun c => regroup (first.wrap (second.wrap c))

end FilterStage

end BulkTransfer
