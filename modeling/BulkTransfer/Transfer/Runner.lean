import BulkTransfer.Transfer.Executor
/-!
# The runner

Decides between a fresh run and a resumed one, and what becomes of the resume state. With a store, a
partial failure is saved for a later run or an explicit cleanup; without one, what was committed is
cleaned up at once and the failure stays the first one.
-/
namespace BulkTransfer

/-- A committed transfer and the config that the next run starts from. -/
structure RunOutcome where
  result : ExecutionResult
  nextConfig : Config
  isResumed : Bool

namespace Runner

def suppress (e : ExecutionError) (late : Except ExecutionError Unit) : ExecutionError :=
  match e, late with
  | .partiallyFailed state cause suppressed, .error other =>
    .partiallyFailed state cause (suppressed ++ [other])
  | e, _ => e

def loadState (store : Option StateStore) :
    Action (Except ExecutionError (Option ResumeState)) := do
  match store with
  | none => return .ok none
  | some s => return (← s.load).mapError .stateStore

def deleteState (store : Option StateStore) : Action (Except ExecutionError Unit) := do
  match store with
  | none => return .ok ()
  | some s => return (← s.delete).mapError .stateStore

/-- What is done about a transfer that failed in part. -/
def salvage (registry : Registry) (store : Option StateStore) (config : Config)
    (state : ResumeState) : Action (Except ExecutionError Unit) := do
  match store with
  | some s => return (← s.save state).mapError .stateStore
  | none => Executor.cleanup registry config state

def run (registry : Registry) (store : Option StateStore) (config : Config) :
    Action (Except ExecutionError RunOutcome) := do
  match ← loadState store with
  | .error e => return .error e
  | .ok saved =>
    let result ← match saved with
      | some state => Executor.resume registry config state
      | none => Executor.run registry config
    match result with
    | .ok result =>
      match ← deleteState store with
      | .error e => return .error e
      | .ok () => return .ok ⟨result, config.merge result.diff, saved.isSome⟩
    | .error (.partiallyFailed state cause suppressed) =>
      let late ← salvage registry store config state
      return .error (suppress (.partiallyFailed state cause suppressed) late)
    | .error e => return .error e

/-- Cleans up the transfer that the store holds, and empties the store. -/
def cleanup (registry : Registry) (store : Option StateStore) (config : Config) :
    Action (Except ExecutionError Unit) := do
  match store with
  | none => return .error (.config (.missing "resume state path"))
  | some s =>
    match ← s.load with
    | .error e => return .error (.stateStore e)
    | .ok none => return .ok ()
    | .ok (some state) =>
      match ← Executor.cleanup registry config state with
      | .error e => return .error e
      | .ok () => return (← s.delete).mapError .stateStore

end Runner

end BulkTransfer
