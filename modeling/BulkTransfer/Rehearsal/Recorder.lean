import BulkTransfer.Page.Reader
import BulkTransfer.Plugin.Feed
import BulkTransfer.Plugin.Input
/-!
# Recorders

Ends for a single stage that is rehearsed by itself: a control that answers always the same, sinks
that keep what they are given, and a reader that takes all there is.
-/
namespace BulkTransfer.Rehearsal

/-- Runs a transaction whose control gives one answer, and tells what the control was asked. -/
def observe {Q R α : Type} (t : Transaction Q R α) (answer : Q → R) (w : World) :
    (Attempt α × Option Q) × World :=
  ((t.drive fun q => do
    set (some q)
    return .ok (answer q)).run none).run w

/-- What a recording sink was given. -/
inductive RecordedCall where
  | page (records bytes : Nat) (rows : List (List (Except PageError Cell)))
  | refused
  | finished

/-- A chain that keeps what it is given, and refuses the call of a number. -/
def recorder (columns : Schema) (refusedCall : Option Nat) : PageChain (List RecordedCall) where
  add := fun page => do
    let calls ← get
    if refusedCall = some calls.length then
      set (calls ++ [RecordedCall.refused])
      throw (.other "sink rejected the page")
    let rows := (page.records columns).map fun r => (List.range columns.size).map r.cell
    set (calls ++ [RecordedCall.page page.recordCount page.byteSize rows])
  finish := modify (· ++ [RecordedCall.finished])
  close := pure ()

/-- The calls of a file sink, and the files it has. -/
structure RecordedFiles where
  events : List String
  files : List Bytes

private def appendLast (files : List Bytes) (data : Bytes) : List Bytes :=
  match files.reverse with
  | last :: others => ((last ++ data) :: others).reverse
  | [] => []

private def recorded (refusedEvent : Option String) (event : String) : Call RecordedFiles Unit := do
  modify fun r => { r with events := r.events ++ [event] }
  if refusedEvent = some event then throw (.other (event ++ " failed"))

private def recordedSurely (event : String) : SureCall RecordedFiles Unit :=
  modify fun r => { r with events := r.events ++ [event] }

/-- A file output that keeps everything in memory, and refuses one kind of call. -/
def fileRecorder (refusedEvent : Option String) : FileSink RecordedFiles where
  nextFile := do
    recorded refusedEvent "next_file"
    modify fun r => { r with files := r.files ++ [[]] }
  add := fun data => do
    recorded refusedEvent "add"
    modify fun r => { r with files := appendLast r.files data }
  finish := recorded refusedEvent "finish"
  commit := do
    recorded refusedEvent "commit"
    return Document.empty.set "files" (.ofNat (← get).files.length)
  abort := recordedSurely "abort"
  close := recordedSurely "close"

/-- Opens a sink, feeds it rows, of which `none` ends a page, and ends it. -/
def deliver {σ : Type} (sink : PageSink σ) (schema : Schema) (rows : List (Option (List Cell)))
    (isAborted : Bool) : Call σ (Option Report) := do
  sink.start
  ExceptT.mk (sink.asChain.receive (Building.build schema false do
    for row in rows do
      match row with
      | some cells => Building.addRow cells
      | none => Building.flush
    Building.flush))
  sink.finish
  let report ← if isAborted then do
      liftM sink.abort
      pure none
    else do pure (some (← sink.commit))
  liftM sink.close
  return report

private def readAll : List (Action (Attempt (List Poll))) → Action (Attempt (List (List Bytes)))
  | [] => .done (.ok [])
  | opening :: rest => do
    match (← opening).bind (List.mapM id) with
    | .error e => return .error e
    | .ok pieces => return (← readAll rest).map (pieces :: ·)

/-- The pieces of all files of an input, and the report that it commits with. -/
def drain (input : FileInput) : Action (Attempt (List (List Bytes) × Report)) := do
  match ← readAll input.files with
  | .error e => return .error e
  | .ok files =>
    input.abort
    match ← input.commit with
    | .error e => return .error e
    | .ok report =>
      input.close
      return .ok (files, report)

end BulkTransfer.Rehearsal
