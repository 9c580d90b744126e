import BulkTransfer.Proofs.Disk.Operations
import BulkTransfer.Proofs.World.Region
import BulkTransfer.Transfer.Runner
/-!
# Attempts

A run attempts a fresh transfer or, when its store holds a state, goes on with the saved one. What
becomes of the run is read off what becomes of the attempt.
-/
namespace BulkTransfer

namespace Executor

variable {registry : Registry} {config : Config} {saved : Option ResumeState} {d : Departure} {w : World}

/-- What a transfer departs with, be it a fresh or a saved one. -/
def departureFrom (registry : Registry) (config : Config) :
    Option ResumeState → Except ExecutionError Departure
  | none => departure registry config
  | some state => resumption registry config state

/-- A fresh transfer, or a saved one that goes on. -/
def attempt (registry : Registry) (config : Config) :
    Option ResumeState → Action (Except ExecutionError ExecutionResult)
  | none => run registry config
  | some state => resume registry config state

theorem attempt_eq (registry : Registry) (config : Config) (saved : Option ResumeState) :
    attempt registry config saved = depart (departureFrom registry config saved) := by
  cases saved <;> rfl

theorem attempt_departs (h : departureFrom registry config saved = .ok d) :
    (attempt registry config saved).run w = ((d.fly.run w).1.conclude, (d.fly.run w).2) := by
  rw [attempt_eq, h]
  exact Program.run_andThen d.fly (fun l => .done l.conclude) w

theorem attempt_grounded {e : ExecutionError} (h : departureFrom registry config saved = .error e) :
    (attempt registry config saved).run w = (.error e, w) := by
  rw [attempt_eq, h]
  rfl

/-- A transfer that does not depart has not failed in part. -/
theorem departureFrom_error {e : ExecutionError} (h : departureFrom registry config saved = .error e)
    (state : ResumeState) (cause : TaskError) (suppressed : List ExecutionError) :
    e ≠ .partiallyFailed state cause suppressed := by
  rintro rfl
  cases saved with
  | none =>
    rw [departureFrom, departure] at h
    repeat' split at h
    all_goals cases h
  | some saved =>
    rw [departureFrom, resumption] at h
    repeat' split at h
    all_goals cases h

end Executor

theorem Disk.readText_counted (d : Disk) (path : String) : (d.readText path).2 = d.counted := by
  have counted := d.read_counted path
  unfold readText
  split
  · rename_i after read
    rw [read] at counted
    split <;> exact counted
  · rename_i after read
    rwa [read] at counted

namespace StateStore

/-- What is made of the text of the file. -/
def reading (s : StateStore) : Except IoError String → Except StateStoreError (Option ResumeState)
  | .error .notFound => .ok none
  | .error cause => .error (.io s.path cause)
  | .ok text =>
    if text.toList.all isBlank then .ok none
    else ((ResumeState.ofYaml text).map some).mapError .yaml

theorem load_eq (s : StateStore) :
    s.load = (Program.onDisk (·.readText s.path)).andThen fun text => .done (s.reading text) := by
  refine congrArg (Program.andThen _) (funext fun text => ?_)
  cases text with
  | error cause => cases cause <;> rfl
  | ok text =>
    by_cases blank : text.toList.all isBlank = true
    · simp only [reading, if_pos blank]
      rfl
    · simp only [reading, if_neg blank]
      rfl

theorem load_run (s : StateStore) (w : World) : s.load.run w =
    (s.reading (w.disk.readText s.path).1, { w with disk := w.disk.counted }) := by
  rw [load_eq, Program.run_andThen, ← w.disk.readText_counted s.path]
  rfl

end StateStore

namespace Runner

variable {registry : Registry} {store : Option StateStore} {config : Config}

/-- What a run does with the end of its attempt. -/
def finish (registry : Registry) (store : Option StateStore) (config : Config) (isResumed : Bool) :
    Except ExecutionError ExecutionResult → Action (Except ExecutionError RunOutcome)
  | .ok result => do
    match ← deleteState store with
    | .error e => return .error e
    | .ok () => return .ok ⟨result, config.merge result.diff, isResumed⟩
  | .error (.partiallyFailed state cause suppressed) => do
    let late ← salvage registry store config state
    return .error (suppress (.partiallyFailed state cause suppressed) late)
  | .error e => return .error e

/-- A run looks for a saved state, attempts the transfer, and deals with how that has ended. -/
theorem run_eq (registry : Registry) (store : Option StateStore) (config : Config) (w : World) :
    (run registry store config).run w =
      match (loadState store).run w with
      | (.error e, w) => (.error e, w)
      | (.ok saved, w) =>
        let ended := (Executor.attempt registry config saved).run w
        (finish registry store config saved.isSome ended.1).run ended.2 := by
  change (Program.andThen (loadState store) _).run w = _
  rw [Program.run_andThen]
  obtain ⟨loaded, w⟩ := (loadState store).run w
  cases loaded with
  | error e => rfl
  | ok saved =>
    cases saved with
    | none => exact Program.run_andThen (Executor.run registry config) (finish registry store config false) w
    | some state =>
      exact Program.run_andThen (Executor.resume registry config state) (finish registry store config true) w

/-- A run commits only if its attempt has, and then goes on to the merged config. -/
theorem finish_ok {isResumed : Bool} {ended : Except ExecutionError ExecutionResult} {w : World}
    {outcome : RunOutcome} (h : ((finish registry store config isResumed ended).run w).1 = .ok outcome) :
    ∃ result, ended = .ok result ∧ outcome = ⟨result, config.merge result.diff, isResumed⟩ := by
  cases ended with
  | ok result =>
    change ((Program.andThen (deleteState store) _).run w).1 = _ at h
    rw [Program.run_andThen] at h
    cases deleted : ((deleteState store).run w).1 with
    | error e =>
      rw [deleted] at h
      cases h
    | ok _ =>
      rw [deleted] at h
      exact ⟨result, rfl, (Except.ok.inj h).symm⟩
  | error e =>
    cases e with
    | partiallyFailed state cause suppressed =>
      change ((Program.andThen (salvage registry store config state) _).run w).1 = _ at h
      rw [Program.run_andThen] at h
      cases h
    | _ => cases h

/-- Looking for a saved state changes nothing but the clock of the disk. -/
theorem loadState_disk (store : Option StateStore) (w : World) :
    ∃ n, ((loadState store).run w).2 = { w with disk := { w.disk with clock := n } } := by
  cases store with
  | none => exact ⟨w.disk.clock, rfl⟩
  | some s =>
    refine ⟨w.disk.clock + 1, ?_⟩
    change ((Program.andThen s.load fun loaded =>
      .done (loaded.mapError ExecutionError.stateStore)).run w).2 = _
    rw [Program.run_andThen, s.load_run]
    rfl

end Runner

end BulkTransfer
