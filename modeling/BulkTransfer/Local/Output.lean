import BulkTransfer.Config.Shape
import BulkTransfer.Plugin.Output
/-!
# Local files as output

Each task writes files of its own, named by the numbers of the task and of the file. Bytes go to a
file beside the final one; a commit moves all files of the task into place and an abort removes
them, so a failed task leaves nothing behind.
-/
namespace BulkTransfer.LocalOutput

/-- How the files are named. -/
structure Naming where
  start : String
  ending : String
  deriving DecidableEq, Repr

namespace Naming

def fields : List RecordField :=
  [.required "path_prefix" Decoder.string, .required "file_ext" Decoder.string]

def decode : Decoder Naming := fun tree => do
  let found ← Decoder.record "LocalFileOutputTask" fields tree
  return ⟨← Decoder.field found "path_prefix" Decoder.string,
    ← Decoder.field found "file_ext" Decoder.string⟩

def shape : Shape Naming :=
  ⟨[.required "path_prefix" .string, .required "file_ext" .string], decode⟩

def toTask (n : Naming) : Task :=
  ⟨[("path_prefix", .str n.start), ("file_ext", .str n.ending)]⟩

def padded (width n : Nat) : String :=
  let digits := toString n
  String.ofList (List.replicate (width - digits.length) '0') ++ digits

/-- The final path of a file of a task. -/
def path (n : Naming) (task file : Nat) : String :=
  n.start ++ padded 3 task ++ "." ++ padded 2 file ++ "." ++ n.ending

end Naming

/-- The path that a file is written to before the commit. -/
def tempPath (path : String) : String := path ++ ".tmp"

/-- The files of a task: those written but not yet in place, by their final paths, and those already
moved into place. At most one file is open. -/
structure Writing where
  openPath : Option String
  pending : List String
  placed : List String
  deriving DecidableEq, Repr

namespace Writing

def blank : Writing := ⟨none, [], []⟩

end Writing

def onDisk {α : Type} (operation : Disk → Except IoError α × Disk)
    (fault : IoError → PluginError) : Call Writing α :=
  Call.ofAction do return (← Program.onDisk operation).mapError fault

def closeFile : SureCall Writing Unit := modify fun w => { w with openPath := none }

/-- Closes the open file with everything written to it. The disk may refuse the last of it. -/
def flushFile : Call Writing Unit := do
  match (← get).openPath with
  | none => return ()
  | some temp =>
    closeFile
    onDisk (·.append temp []) .io

def nextFile (n : Naming) (task : Nat) : Call Writing Unit := do
  flushFile
  let path := n.path task (← get).pending.length
  let temp := tempPath path
  onDisk (·.create temp) (.file temp)
  modify fun w => { w with openPath := some temp, pending := w.pending ++ [path] }

def add (data : Bytes) : Call Writing Unit := do
  match (← get).openPath with
  | none => throw (.invalidFormat "data written before next_file")
  | some temp => onDisk (·.append temp data) .io

/-- Moves the pending files into place, the first one first. -/
def placeAll : List String → Call Writing Unit
  | [] => pure ()
  | path :: rest => do
    onDisk (·.rename (tempPath path) path) (.file path)
    modify fun w => { w with pending := rest, placed := w.placed ++ [path] }
    placeAll rest

def commit : Call Writing Report := do
  flushFile
  placeAll (← get).pending
  let placed := (← get).placed
  modify fun w => { w with placed := [] }
  return Document.empty.set "files" (.arr (placed.map .str))

def removeAll : List String → Action Unit
  | [] => .done ()
  | path :: rest => do
    let _ ← Program.onDisk (·.remove path)
    removeAll rest

def abort : SureCall Writing Unit := do
  let w ← get
  removeAll (w.pending.map tempPath ++ w.placed)
  set Writing.blank

def sink (n : Naming) (task : Nat) : FileSink Writing where
  nextFile := nextFile n task
  add := add
  finish := flushFile
  commit := commit
  abort := abort
  close := closeFile

/-- The sink of a frozen task. -/
def sinkOf (task : Task) (index : Nat) : Attempt (FileSink Writing) := do
  return sink (← Attempt.ofConfig (task.loadTask Naming.decode)) index

def openTask (task : Task) (index : Nat) : Attempt FileOutput :=
  match sinkOf task index with
  | .ok sink => .ok ⟨Writing, sink, .blank⟩
  | .error e => .error e

def resume (task : Task) (_ : Nat) : Transaction Task (List Report) Report :=
  Transaction.callThen task fun _ => .done (.ok Document.empty)

/-- The directory of the files is made before any task runs. -/
def transaction (config : Config) (taskCount : Nat) :
    Transaction Task (List Report) Report :=
  match config.load Naming.shape with
  | .error e => Transaction.finish (.error (.config e))
  | .ok n =>
    match Path.parent? n.start with
    | none | some "" => resume n.toTask taskCount
    | some parent =>
      Program.andThen (Program.onDisk (·.makeDirectories parent)) fun
        | .error cause => Transaction.finish (.error (.file parent cause))
        | .ok () => resume n.toTask taskCount

/-- Removes files that may be gone already. -/
def removeListed : List String → Action (Attempt Unit)
  | [] => .done (.ok ())
  | path :: rest => do
    match ← Program.onDisk (·.remove path) with
    | .ok () | .error .notFound => removeListed rest
    | .error cause => return .error (.file path cause)

/-- Removes the files that tasks have committed, task by task. -/
def cleanup : List Report → Action (Attempt Unit)
  | [] => .done (.ok ())
  | report :: rest =>
    match report.getOr "files" .strings [] with
    | .error e => .done (.error (.config e))
    | .ok files => do
      match ← removeListed files with
      | .error e => return .error e
      | .ok () => cleanup rest

def plugin : FileOutputPlugin where
  transaction := transaction
  resume := resume
  cleanup := fun _ _ reports => cleanup reports
  openTask := openTask

end BulkTransfer.LocalOutput
