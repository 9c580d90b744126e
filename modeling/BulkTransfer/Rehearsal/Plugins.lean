import BulkTransfer.Page.CellWord
import BulkTransfer.Page.Reader
import BulkTransfer.Plugin.Registry
import BulkTransfer.Rehearsal.Script
/-!
# Plugins for rehearsals

Plugins that stand in for real ones when a transfer is rehearsed. They make up their records, note
every call, and fail where a script says so.
-/
namespace BulkTransfer.Rehearsal

section Notes

variable {Q R : Type}

private def noteMain (text : String) : Program Q R Unit := Program.note none text

private def noteTask (index : Nat) (text : String) : Program Q R Unit :=
  Program.note (some index) text

private def texts (reports : List Report) : String :=
  " ".intercalate (reports.map Document.text)

private def skipped : Report := Document.empty.set "skipped" (.bool true)

private def cleanUp (side : String) (fault : Option String) (reports : List Report) :
    Action (Attempt Unit) := do
  noteMain ("cleanup " ++ side ++ " " ++ texts reports)
  match fault with
  | some text => return .error (.other text)
  | none => return .ok ()

end Notes

section Input

/-- One column of whole numbers. -/
def schema : Schema := ⟨[⟨0, "id", .long⟩], by decide⟩

def around (s : Script) (request : InputRequest) :
    Transaction InputRequest (List Report) Report :=
  match s.input with
  | some .before => Transaction.finish (.error (.other "input failed before running"))
  | some .skip => Transaction.finish (.ok skipped)
  | moment =>
    Transaction.callThen request fun reports => do
      noteMain ("in reports " ++ texts reports)
      if moment = some .after then return .error (.other "input failed after running")
      return .ok ((Document.empty.set "tasks" (.ofNat reports.length)).setNested "last"
        (Document.mergeAll reports))

def beginInput (s : Script) (config : Config) :
    Transaction InputRequest (List Report) Report :=
  let settings := do
    return (← config.require "tasks" .count, ← config.getOr "rows" .long 1)
  match settings with
  | .error e => Transaction.finish (.error (.config e))
  | .ok (tasks, rows) =>
    Program.andThen (noteMain ("in transaction " ++ toString tasks)) fun () =>
      around s ⟨Document.empty.set "rows" (.ofInt rows), schema, tasks⟩

private def resumeInput (s : Script) (task : Task) (saved : Schema) (taskCount : Nat) :
    Transaction InputRequest (List Report) Report :=
  Program.andThen (noteMain ("in resume " ++ toString taskCount)) fun () =>
    around s ⟨task, saved, s.resumedTasks.getD taskCount⟩

private def addRows (s : Script) (index rows : Nat) : Building Unit := do
  for row in List.range rows do
    Building.addRow [.long (Int64.ofNat (index * 100 + row))]
  if s.badRows.contains index then
    throw (.invalidRecord ("bad row in task " ++ toString index))
  Building.flush

private def runTask (s : Script) (task : Task) (saved : Schema) (index : Nat) :
    Feed (Except RunFault Report) := do
  noteTask index "run"
  if s.stops.contains index then
    Program.change fun w => { w with isCancelled := true }
  if s.panics.contains index then
    return .error (.panicked ("task " ++ toString index ++ " exploded"))
  match task.require "rows" .long with
  | .error e => return .error (.failed (.config e))
  | .ok rows =>
    let fed ← Building.build saved true (addRows s index rows.toNat)
    return (fed.map fun () => Document.empty.set "index" (.ofNat index)).mapError .failed

def input (s : Script) : InputPlugin where
  transaction := beginInput s
  resume := resumeInput s
  cleanup := fun _ _ _ reports => cleanUp "in" s.inputCleanup reports
  run := runTask s

end Input

section Output

private def memoryTask : Task := Document.empty.set "target" (.str "memory")

private def total (reports : List Report) : Attempt Int := do
  let counts ← reports.mapM fun report => Attempt.ofConfig (report.require "rows" .long)
  return counts.foldr (· + ·) 0

def aroundOutput (s : Script) (task : Task) : Transaction Task (List Report) Report :=
  match s.output with
  | some .before => Transaction.finish (.error (.other "output failed before running"))
  | some .skip => Transaction.finish (.ok skipped)
  | moment =>
    Transaction.callThen task fun reports => do
      if moment = some .after then return .error (.other "output failed after running")
      return (total reports).map fun rows => Document.empty.set "rows" (.ofInt rows)

private def beginOutput (s : Script) (_ : Config) (columns : Schema) (taskCount : Nat) :
    Transaction Task (List Report) Report :=
  Program.andThen
    (noteMain ("out transaction " ++ toString taskCount ++ " " ++ toString columns.size))
    fun () => aroundOutput s memoryTask

private def resumeOutput (s : Script) (task : Task) (_ : Schema) (taskCount : Nat) :
    Transaction Task (List Report) Report :=
  Program.andThen (noteMain ("out resume " ++ toString taskCount)) fun () => aroundOutput s task

/-- Notes a call of a task's sink, and says whether it is to fail. -/
private def called (s : Script) (index : Nat) (call : SinkCall) : Action (Attempt Unit) := do
  noteTask index call.name
  if s.refuses call index then
    return .error (.other (call.name ++ " of sink " ++ toString index ++ " failed"))
  else return .ok ()

/-- Notes the records up to the first that cannot be read. -/
private def noteRows (index : Nat) : List Record → Call Nat Unit
  | [] => pure ()
  | r :: rest => do
    let cells ← Call.ofAttempt (Attempt.ofPage r.cells)
    Call.ofAction do
      noteTask index ("row " ++ " ".intercalate (cells.map Cell.word))
      return .ok ()
    modify (· + 1)
    noteRows index rest

/-- A sink whose state is the number of records it has taken. -/
private def sink (s : Script) (columns : Schema) (index : Nat) :
    PageSink Nat where
  start := Call.ofAction do
    noteTask index "open"
    if s.unopened.contains index then
      return .error (.other ("cannot open sink " ++ toString index))
    else return .ok ()
  add := fun page => do
    Call.ofAction (called s index .add)
    noteRows index (page.records columns)
  finish := Call.ofAction (called s index .finish)
  commit := do
    Call.ofAction (called s index .commit)
    return Document.empty.set "rows" (.ofNat (← get))
  abort := StateT.lift ((called s index .abort).andThen fun _ => .done ())
  close := StateT.lift ((called s index .close).andThen fun _ => .done ())

def output (s : Script) : OutputPlugin where
  transaction := beginOutput s
  resume := resumeOutput s
  cleanup := fun _ _ _ reports => cleanUp "out" s.outputCleanup reports
  openTask := fun _ columns index => .ok ⟨Nat, sink s columns index, 0⟩

end Output

section Filter

private def beginFilter (s : Script) (_ : Config) (columns : Schema) :
    Transaction FilterRequest Unit Unit :=
  Program.andThen (noteMain "filter transaction") fun () =>
    match s.filter with
    | some .before => Transaction.finish (.error (.other "filter failed before running"))
    | some .skip => Transaction.finish (.ok ())
    | _ => Transaction.call ⟨Document.empty.set "delta" (.ofInt 1), columns⟩ .done

private def raised (delta : Int64) : List Cell → List Cell
  | .long n :: rest => .long (n + delta) :: rest
  | cells => cells

private def copyRows (delta : Int64) (records : List Record) : Building Unit := do
  for r in records do
    Building.addRow (raised delta (← Building.ofAttempt (Attempt.ofPage r.cells)))
  Building.flush

/-- Does something with buffers of its own. -/
private def withOwnPool {σ α : Type} (act : SureCall σ α) : SureCall σ α := do
  let shared ← StateT.lift (Program.onPool fun pool => (pool, Pool.ofPageSize defaultPageSize))
  let result ← act
  StateT.lift (Program.onPool fun _ => ((), shared))
  return result

private def raisedChain {σ : Type} (delta : Int64) (source target : Schema) (c : PageChain σ) :
    PageChain σ :=
  { c with
    add := fun page => ExceptT.mk (withOwnPool (c.receive
      (Building.build target false (copyRows delta (page.records source))))) }

private def raising (delta : Int64) (source target : Schema) : FilterStage where
  State := Unit
  initial := ()
  wrap := fun c => FilterStage.passing.wrap (raisedChain delta source target c)

/-- Raises the first column by one. Every page is passed on by itself. -/
def filter (s : Script) : FilterPlugin where
  transaction := beginFilter s
  openTask := fun task source target =>
    if !s.filterOpens then .error (.other "filter cannot open")
    else match task.require "delta" .long with
      | .ok delta => .ok (raising (Int64.ofInt delta) source target)
      | .error e => .error (.config e)

end Filter

section Codec

private def firstByte (text : String) : Nat :=
  ((Utf8.encode text).head?.map UInt8.toNat).getD '?'.toNat


private def replacementTask (config : Config) : Except ConfigError (Option Task) := do
  if ← config.getOr "skip" .bool false then return none
  let source ← config.require "from" .string
  let target ← config.require "to" .string
  return some ((Document.empty.set "from" (.ofNat (firstByte source))).set "to"
    (.ofNat (firstByte target)))

private def beginReplacing (name : String) (config : Config) : Transaction Task Unit Unit :=
  Program.andThen (noteMain (name ++ " transaction")) fun () =>
    match replacementTask config with
    | .error e => Transaction.finish (.error (.config e))
    | .ok none => Transaction.finish (.ok ())
    | .ok (some task) => Transaction.call task .done

/-- The change of bytes that a task stands for. -/
private def replacing (task : Task) : Attempt (Bytes → Bytes) := Attempt.ofConfig do
  let source ← task.require "from" .count
  let target ← task.require "to" .count
  return List.map fun b => if b.toNat = source then UInt8.ofNat target else b

def decoder : DecoderPlugin where
  transaction := beginReplacing "decoder"
  openTask := fun task input => return input.mapBytes (← replacing task)

def encoder : EncoderPlugin where
  transaction := beginReplacing "encoder"
  openTask := fun task output =>
    match replacing task with
    | .ok f => .ok (output.mapBytes f)
    | .error e => .error e

/-- A parser that never asks for its tasks to be run. -/
def idleParser : ParserPlugin where
  transaction := fun _ => Transaction.finish (.ok ())
  run := fun _ _ _ => .done (.ok ())

/-- A formatter that never asks for its tasks to be run. -/
def idleFormatter : FormatterPlugin where
  transaction := fun _ _ => Transaction.finish (.ok ())
  openTask := fun _ _ _ => .error (.other "lazy formatter has no output")

end Codec

/-- The stand-ins by their names. -/
def registry (s : Script) : Registry where
  inputs := [("mock", input s)]
  decoders := [("replace", decoder)]
  parsers := [("lazy", idleParser)]
  filters := [("plus_one", filter s)]
  outputs := [("mock", output s)]
  encoders := [("replace", encoder)]
  formatters := [("lazy", idleFormatter)]

end BulkTransfer.Rehearsal
