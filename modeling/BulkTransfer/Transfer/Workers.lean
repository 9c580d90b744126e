import BulkTransfer.Transfer.TaskPlan
/-!
# Running tasks

Tasks are launched in the order of their indices, only so many at a time, and each is waited for. A
failure stops no other task; once a stop was asked for, tasks that were not launched count as
cancelled. The steps of tasks that run at the same time follow each other as the schedule of the
world says; behind the schedule each task is run to its end before the next one is launched.
-/
namespace BulkTransfer

/-- The tasks of a session: those that wait, those that run, each with what is left of it, those
that were launched at all, and how the others ended. -/
structure Crew where
  waiting : List Nat
  running : List (Nat × Action TaskOutcome)
  launched : List Nat
  ended : List TaskOutcome

namespace Crew

def ofIndices (indices : List Nat) : Crew := ⟨indices, [], [], []⟩

/-- Deals with the first task that waits: it is launched if one more may run. -/
def launch (p : TaskPlan) (limit : Option Nat) (c : Crew) (w : World) : Crew :=
  match c.waiting with
  | [] => c
  | index :: rest =>
    if w.isCancelled then
      { c with waiting := rest, ended := c.ended ++ [.failed index .cancelled] }
    else if limit.all (c.running.length < ·) then
      { c with
        waiting := rest
        running := c.running ++ [(index, p.perform index)]
        launched := c.launched ++ [index] }
    else c

/-- A running task takes a step, or leaves when it is done. -/
def step (c : Crew) (place : Nat) (w : World) : Crew × World :=
  match c.running[place]? with
  | none => (c, w)
  | some (_, .done o) =>
    ({ c with running := c.running.eraseIdx place, ended := c.ended ++ [o] }, w)
  | some (index, program) =>
    let (rest, w) := program.advance w
    ({ c with running := c.running.set place (index, rest) }, w)

/-- A running task leaves without having come to its end. -/
def crash (c : Crew) (place : Nat) (text : String) : Crew :=
  match c.running[place]? with
  | none => c
  | some (index, _) =>
    { c with
      running := c.running.eraseIdx place
      ended := c.ended ++ [.failed index (.panicked text)] }

def follow (p : TaskPlan) (limit : Option Nat) (c : Crew) (w : World) : Choice → Crew × World
  | .launch => (c.launch p limit w, w)
  | .step place => c.step place w
  | .crash place text => (c.crash place text, w)
  | .stop => (c, { w with isCancelled := true })

def followAll (p : TaskPlan) (limit : Option Nat) (c : Crew) (w : World) :
    List Choice → Crew × World
  | [] => (c, w)
  | choice :: rest =>
    let (c, w) := c.follow p limit w choice
    c.followAll p limit w rest

/-- Runs what is left of the running tasks, one after the other. -/
def finishRunning : List (Nat × Action TaskOutcome) → World → List TaskOutcome × World
  | [], w => ([], w)
  | (_, program) :: rest, w =>
    let (outcome, w) := program.run w
    let (outcomes, w) := finishRunning rest w
    (outcome :: outcomes, w)

/-- Launches tasks one after the other, each when the one before has ended. -/
def finishWaiting (p : TaskPlan) (c : Crew) (w : World) : List Nat → Crew × World
  | [] => (c, w)
  | index :: rest =>
    if w.isCancelled then
      finishWaiting p { c with ended := c.ended ++ [.failed index .cancelled] } w rest
    else
      let (outcome, w) := (p.perform index).run w
      finishWaiting p
        { c with launched := c.launched ++ [index], ended := c.ended ++ [outcome] } w rest

/-- Waits for all tasks. -/
def finish (p : TaskPlan) (c : Crew) (w : World) : Crew × World :=
  let (outcomes, w) := finishRunning c.running w
  finishWaiting p { c with waiting := [], running := [], ended := c.ended ++ outcomes } w c.waiting

/-- Puts an outcome before the first one of the same or a higher index. -/
def insert (o : TaskOutcome) : List TaskOutcome → List TaskOutcome
  | [] => [o]
  | first :: rest =>
    if o.index ≤ first.index then o :: first :: rest else first :: insert o rest

/-- How the tasks ended, in the order of their indices. -/
def outcomes (c : Crew) : List TaskOutcome := c.ended.foldr insert []

end Crew

namespace Workers

def count (o : TaskOutcome) (m : Metrics) : Metrics :=
  if o.isCommitted then { m with committed := m.committed + 1 }
  else { m with failed := m.failed + 1 }

/-- The given tasks from first to last, in a world. -/
def serve (p : TaskPlan) (limit : Option Nat) (indices : List Nat) (w : World) : Crew × World :=
  let (crew, w) := (Crew.ofIndices indices).followAll p limit w w.schedule
  let (crew, w) := crew.finish p w
  (crew, { w with metrics := crew.ended.foldl (fun m o => count o m) w.metrics })

/-- Runs the given tasks and waits for all of them. -/
def runAll (p : TaskPlan) (limit : Option Nat) (indices : List Nat) : Action Crew :=
  .step (fun w => (serve p limit indices w).2) fun w => .done (serve p limit indices w).1

end Workers

end BulkTransfer
