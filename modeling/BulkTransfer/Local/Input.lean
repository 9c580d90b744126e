import BulkTransfer.Config.Shape
import BulkTransfer.Plugin.Input
/-!
# Local files as input

One task for each file whose path starts with a given text, in the order of the paths. Files that
sort at or before the last path of an earlier run are skipped, and the diff moves the last path on.
-/
namespace BulkTransfer.LocalInput

/-- What is searched for. -/
structure Search where
  start : String
  lastPath : Option String
  deriving Repr

namespace Search

def lastPath? : Decoder (Option String) := Decoder.optional Decoder.string

def decode : Decoder Search := fun tree => do
  let found ← Decoder.record "LocalFileConfig"
    [.required "path_prefix" Decoder.string, .defaulted "last_path" lastPath?] tree
  return ⟨← Decoder.field found "path_prefix" Decoder.string,
    ← Decoder.field found "last_path" lastPath? (.ok none)⟩

def shape : Shape Search :=
  ⟨[.required "path_prefix" .string, .optional "last_path" .string], decode⟩

end Search

/-- The files of a run. -/
structure Files where
  files : List String
  lastPath : Option String
  deriving Repr

namespace Files

def strings : Decoder (List String) := Decoder.list Decoder.string

def fields : List RecordField :=
  [.required "files" strings, .nullable "last_path" (Decoder.optional Decoder.string)]

def decode : Decoder Files := fun tree => do
  let found ← Decoder.record "LocalFileTask" fields tree
  return ⟨← Decoder.field found "files" strings,
    ← Decoder.field found "last_path" (Decoder.optional Decoder.string) (.ok none)⟩

def toTask (f : Files) : Task :=
  ⟨[("files", .arr (f.files.map .str)), ("last_path", f.lastPath.elim .null .str)]⟩

def ofTask (task : Task) : Attempt Files := Attempt.ofConfig (task.loadTask decode)

/-- The last file moves the last path on; without files it stays. -/
def diff (f : Files) : Report :=
  match f.files.getLast?.or f.lastPath with
  | some last => Document.empty.set "last_path" (.str last)
  | none => Document.empty

end Files

section Listing

/-- The part of a path up to its last slash. -/
def rootOf (start : String) : String :=
  String.ofList (start.toList.reverse.dropWhile (· ≠ '/')).reverse

def startsWith (text start : String) : Bool := start.toList.isPrefixOf text.toList

/-- A directory can hold a match when its path and the wanted start agree as far as both go. -/
def mayHold (start directory : String) : Bool :=
  startsWith directory start || startsWith start directory

/-- The matches in one directory and the directories below it that may hold some. -/
def scan (start directory : String) (entries : List (String × Bool)) :
    List String × List String :=
  let named (isDirectory : Bool) :=
    (entries.filter (·.2 = isDirectory)).map fun (name, _) => directory ++ name
  ((named false).filter (startsWith · start),
    ((named true).map (· ++ "/")).filter (mayHold start))

/-- Lists directories until none is left; there are no more of them than nodes on the disk. A
directory that is gone holds nothing. -/
def listWithin (start : String) : Nat → Disk → List String → List String →
    Except PluginError (List String) × Disk
  | 0, d, _, found => (.ok found, d)
  | _, d, [], found => (.ok found, d)
  | fuel + 1, d, directory :: rest, found =>
    let path := if directory.isEmpty then "." else directory
    match d.list path with
    | (.error .notFound, d) => listWithin start fuel d rest found
    | (.error cause, d) => (.error (.file path cause), d)
    | (.ok entries, d) =>
      let (files, directories) := scan start directory entries
      listWithin start fuel d (directories.reverse ++ rest) (found ++ files)

/-- The files whose paths start with a text and sort after the last path, in order. -/
def list (s : Search) (d : Disk) : Except PluginError (List String) × Disk :=
  match listWithin s.start (d.nodes.length + 2) d [rootOf s.start] [] with
  | (.error e, d) => (.error e, d)
  | (.ok found, d) =>
    let isNew (path : String) : Bool := s.lastPath.all (· < path)
    (.ok ((found.mergeSort (· ≤ ·)).filter isNew), d)

end Listing

/-- How much of a file is read at a time. -/
def pieceSize : Nat := 32 * 1024

/-- The pieces of a file. -/
def piecesOf (content : Bytes) : List Bytes :=
  if _h : content = [] then []
  else content.take pieceSize :: piecesOf (content.drop pieceSize)
termination_by content.length
decreasing_by
  have : 0 < content.length := List.length_pos_iff.mpr ‹_›
  simp only [List.length_drop, pieceSize]
  omega

/-- Opens a file. A directory can be opened but not read. -/
def openFile (path : String) : Action (Attempt (List Poll)) := do
  match ← Program.onDisk (·.read path) with
  | .ok content => return .ok ((piecesOf content).map .ok)
  | .error .isADirectory => return .ok [.error (.file path .isADirectory)]
  | .error cause => return .error (.file path cause)

def openTask (task : Task) (index : Nat) : Attempt FileInput := do
  let files ← Files.ofTask task
  match files.files[index]? with
  | none => throw (.config (.missing ("files[" ++ toString index ++ "]")))
  | some path => return {
      files := [openFile path]
      commit := .done (.ok Document.empty)
      abort := .done ()
      close := .done () }

def resume (task : Task) (taskCount : Nat) :
    Transaction FileInputRequest (List Report) Report :=
  match Files.ofTask task with
  | .error e => Transaction.finish (.error e)
  | .ok files => Transaction.callThen ⟨task, taskCount⟩ fun _ => .done (.ok files.diff)

def transaction (config : Config) : Transaction FileInputRequest (List Report) Report :=
  match config.load Search.shape with
  | .error e => Transaction.finish (.error (.config e))
  | .ok search =>
    Program.andThen (Program.onDisk (list search)) fun
      | .error e => Transaction.finish (.error e)
      | .ok files => resume (Files.toTask ⟨files, search.lastPath⟩) files.length

def plugin : FileInputPlugin where
  transaction := transaction
  resume := resume
  cleanup := fun _ _ _ => .done (.ok ())
  openTask := openTask

end BulkTransfer.LocalInput
