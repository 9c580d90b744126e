import BulkTransfer.Tree.Decode
/-!
# Scripts of rehearsals

What goes wrong in a rehearsed transfer: which calls fail, in which tasks, and which transactions
give up.
-/
namespace BulkTransfer.Rehearsal

/-- Where a transaction gives up. -/
inductive Moment where
  | before
  /-- Ends well without running the tasks. -/
  | skip
  | after
  deriving DecidableEq, Repr

inductive SinkCall where
  | add
  | finish
  | commit
  | abort
  | close
  deriving DecidableEq, Repr

def SinkCall.all : List SinkCall := [.add, .finish, .commit, .abort, .close]

def SinkCall.name : SinkCall → String
  | add => "add"
  | finish => "finish"
  | commit => "commit"
  | abort => "abort"
  | close => "close"

/-- What goes wrong, in which tasks. -/
structure Script where
  stops : List Nat := []
  panics : List Nat := []
  badRows : List Nat := []
  unopened : List Nat := []
  refusals : List (SinkCall × List Nat) := []
  input : Option Moment := none
  output : Option Moment := none
  filter : Option Moment := none
  filterOpens : Bool := true
  inputCleanup : Option String := none
  outputCleanup : Option String := none
  /-- The number of tasks that a resumed input asks for. -/
  resumedTasks : Option Nat := none

def Script.refuses (s : Script) (call : SinkCall) (index : Nat) : Bool :=
  s.refusals.any fun (c, indices) => c = call && indices.contains index

namespace Script

private def moment : Decoder Moment :=
  Decoder.choice [("before", .before), ("skip", .skip), ("after", .after)]

private def filterMoment : Decoder (Option Moment) :=
  Decoder.choice [("before", some .before), ("skip", some .skip), ("open", none)]

private def tasksAt (fields : Entries) (name : String) : Except DecodeError (List Nat) :=
  Decoder.field fields name (Decoder.list Decoder.count) (.ok [])

private def optionAt {α : Type} (fields : Entries) (name : String) (decoder : Decoder α) :
    Except DecodeError (Option α) :=
  Decoder.field fields name (Decoder.optional decoder) (.ok none)

def decode : Decoder Script := fun tree => do
  let fields ← Decoder.entries tree
  let filter ← optionAt fields "filter" filterMoment
  let refusals ← SinkCall.all.mapM fun call => do return (call, ← tasksAt fields call.name)
  return {
    stops := ← tasksAt fields "cancel_at"
    panics := ← tasksAt fields "panic"
    badRows := ← tasksAt fields "fail"
    unopened := ← tasksAt fields "open"
    refusals
    input := ← optionAt fields "in" moment
    output := ← optionAt fields "out" moment
    filter := filter.join
    filterOpens := filter ≠ some none
    inputCleanup := ← optionAt fields "cleanup_in" Decoder.string
    outputCleanup := ← optionAt fields "cleanup_out" Decoder.string
    resumedTasks := ← optionAt fields "resume_tasks" Decoder.count }

end Script

end BulkTransfer.Rehearsal
