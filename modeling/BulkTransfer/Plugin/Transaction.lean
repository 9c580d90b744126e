import BulkTransfer.Plugin.Error
import BulkTransfer.World.Program
/-!
# Transactions

The transaction of a plugin runs once around the tasks of a transfer. It freezes a task, hands it to
the next stage through its control, and after all tasks have ended turns their reports into a result
of its own. It calls the control once or, when it gives up before, not at all.
-/
namespace BulkTransfer

inductive TransactionEvent (Q R α : Type) where
  | finished (result : α)
  | called (request : Q) (resume : R → Action α)

/-- A transaction asks its control `Q` and gets `R`; both it and its control may fail. -/
abbrev Transaction (Q R α : Type) := Action (TransactionEvent Q (Attempt R) (Attempt α))

namespace Transaction

variable {Q R Q' R' α : Type}

def finish (result : Attempt α) : Transaction Q R α := .done (.finished result)

def call (request : Q) (resume : Attempt R → Action (Attempt α)) : Transaction Q R α :=
  .done (.called request resume)

/-- Hands on a request and passes a failure through. -/
def callThen (request : Q) (resume : R → Action (Attempt α)) : Transaction Q R α :=
  call request fun
    | .ok r => resume r
    | .error e => .done (.error e)

/-- The control of the outer transaction is a transaction itself. -/
def nest (outer : Transaction Q R α) (inner : Q → Transaction Q' R' R) : Transaction Q' R' α :=
  Program.andThen outer fun
    | .finished a => finish a
    | .called q resume => Program.andThen (inner q) fun
      | .finished r => Program.andThen (resume r) finish
      | .called q' resume' => call q' fun r' => do resume (← resume' r')

/-- Runs a transaction around a control that has a state of its own. -/
def drive {σ : Type} (t : Transaction Q R α) (control : Q → StateT σ Action (Attempt R)) :
    StateT σ Action (Attempt α) := do
  match ← t with
  | .finished a => return a
  | .called q resume => do
    let r ← control q
    resume r

def settle (notRun : PluginError) (result : Attempt Unit) (answer : Attempt R) :
    Attempt R :=
  match result, answer with
  | .error e, _ => .error e
  | .ok (), .ok r => .ok r
  | .ok (), .error _ => .error notRun

/-- Gives back what a chain of stages was answered with, although the stages hand on no more than
success. A chain that ends well without an answer is an error. -/
def collecting (t : Transaction Q Unit Unit) (notRun : PluginError) : Transaction Q R R :=
  Program.andThen t fun
    | .finished result => finish (settle notRun result (.error notRun))
    | .called q resume => call q fun answer => do
      return settle notRun (← resume (answer.map fun _ => ())) answer

end Transaction

end BulkTransfer
