import BulkTransfer.Disk.Error
import BulkTransfer.Disk.Path
import BulkTransfer.Text.Utf8
/-!
# The disk

Files and directories by their places, and the operations that the transfer needs of them. Every
operation is one access; a disk may refuse any access, so that failures can be stated as well as
successes. Paths are resolved from the working directory, and every directory on the way has to
exist.
-/
namespace BulkTransfer

/-- The names on the way from the working directory. A leading `/` or leading steps to parents lead
out of it. -/
abbrev Location := List String

inductive DiskNode where
  | file (content : Bytes)
  | directory
  deriving DecidableEq, Repr, Inhabited

inductive Access where
  | read (path : String)
  | list (path : String)
  | create (path : String)
  | append (path : String)
  | rename (source target : String)
  | remove (path : String)
  | makeDirectory (path : String)
  deriving DecidableEq, Repr

structure Disk where
  nodes : List (Location × DiskNode)
  /-- The number of accesses so far. -/
  clock : Nat
  /-- What is refused, and when. -/
  refusal : Nat → Access → Option IoError

instance : Inhabited Disk := ⟨⟨[], 0, fun _ _ => none⟩⟩

namespace Disk

/-- An empty working directory in which nothing is refused. -/
def empty : Disk := default

/-- Places that are always directories: the working directory, those above it and the root. -/
def isBase (l : Location) : Bool := l.all fun name => name = ".." || name = "/"

def node? (d : Disk) (l : Location) : Option DiskNode :=
  if isBase l then some .directory else d.nodes.lookup l

def putNode (d : Disk) (l : Location) (n : DiskNode) : Disk :=
  { d with nodes := put d.nodes }
where
  put : List (Location × DiskNode) → List (Location × DiskNode)
    | [] => [(l, n)]
    | (k, v) :: rest => if k = l then (l, n) :: rest else (k, v) :: put rest

def eraseNode (d : Disk) (l : Location) : Disk :=
  { d with nodes := d.nodes.filter (·.1 ≠ l) }

section Resolution

def greatestNameSize : Nat := 255

def greatestPathSize : Nat := 4095

def parentOf (l : Location) : Location :=
  if l = ["/"] then l
  else match l.getLast? with
    | none | some ".." => l ++ [".."]
    | some _ => l.dropLast

/-- Walks down from a directory. The last name need not exist. -/
def walk (d : Disk) : Location → List String → Except IoError Location
  | l, [] => .ok l
  | l, name :: rest =>
    if name = "." then walk d l rest
    else if name = ".." then walk d (parentOf l) rest
    else if name.utf8ByteSize > greatestNameSize then .error .nameTooLong
    else
      let next := l ++ [name]
      match rest with
      | [] => .ok next
      | _ :: _ =>
        match d.node? next with
        | some .directory => walk d next rest
        | some (.file _) => .error .notADirectory
        | none => .error .notFound

/-- The place of a path. -/
def resolve (d : Disk) (path : String) : Except IoError Location :=
  if path.isEmpty then .error .notFound
  else if path.toList.contains (Char.ofNat 0) then .error .nulInPath
  else if path.utf8ByteSize > greatestPathSize then .error .nameTooLong
  else d.walk (if Path.isAbsolute path then ["/"] else []) (Path.names path)

/-- The node at a path; a path that ends like a directory's leads to no file. -/
def nodeAt (d : Disk) (path : String) : Except IoError (Location × Option DiskNode) := do
  let l ← d.resolve path
  match d.node? l with
  | some (.file content) =>
    if Path.endsAsDirectory path then throw .notADirectory
    return (l, some (.file content))
  | other => return (l, other)

end Resolution

section Operations

/-- Counts an access, and refuses it if the disk does so at this time. -/
def attempt {α : Type} (d : Disk) (a : Access)
    (act : Disk → Except IoError (α × Disk)) : Except IoError α × Disk :=
  let counted := { d with clock := d.clock + 1 }
  match d.refusal d.clock a with
  | some fault => (.error fault, counted)
  | none =>
    match act counted with
    | .ok (result, changed) => (.ok result, changed)
    | .error fault => (.error fault, counted)

def read (d : Disk) (path : String) : Except IoError Bytes × Disk :=
  d.attempt (.read path) fun d => do
    match ← d.nodeAt path with
    | (_, some (.file content)) => return (content, d)
    | (_, some .directory) => throw .isADirectory
    | (_, none) => throw .notFound

/-- The place where a file can be written, with what it holds now. -/
def writable (d : Disk) (path : String) : Except IoError (Location × Bytes) := do
  match ← d.nodeAt path with
  | (l, some (.file content)) => return (l, content)
  | (_, some .directory) => throw .isADirectory
  | (l, none) =>
    if Path.endsAsDirectory path then throw .isADirectory
    return (l, [])

/-- Makes an empty file, or empties one. -/
def create (d : Disk) (path : String) : Except IoError Unit × Disk :=
  d.attempt (.create path) fun d => do
    let (l, _) ← d.writable path
    return ((), d.putNode l (.file []))

/-- Opens a file for writing at its end; a missing one is made. -/
def openToAppend (d : Disk) (path : String) : Except IoError Unit × Disk :=
  d.attempt (.create path) fun d => do
    let (l, content) ← d.writable path
    return ((), d.putNode l (.file content))

/-- Writes at the end of an open file. What is written to a file that is gone is lost. -/
def append (d : Disk) (path : String) (data : Bytes) : Except IoError Unit × Disk :=
  d.attempt (.append path) fun d =>
    match d.nodeAt path with
    | .ok (l, some (.file content)) => .ok ((), d.putNode l (.file (content ++ data)))
    | _ => .ok ((), d)

/-- A file with the given content in place of what was there. -/
def write (d : Disk) (path : String) (data : Bytes) : Except IoError Unit × Disk :=
  match d.create path with
  | (.ok (), d) => d.append path data
  | failed => failed

/-- Moves a file; one that was there before is replaced. -/
def rename (d : Disk) (source target : String) : Except IoError Unit × Disk :=
  d.attempt (.rename source target) fun d => do
    match ← d.nodeAt source with
    | (start, some n) =>
      let (goal, old) ← d.nodeAt target
      match n, old with
      | .file _, some .directory => throw .isADirectory
      | .file _, _ =>
        if Path.endsAsDirectory target then throw .notADirectory
        return ((), (d.eraseNode start).putNode goal n)
      | .directory, some (.file _) => throw .notADirectory
      | .directory, _ => throw .alreadyExists
    | (_, none) => throw .notFound

def remove (d : Disk) (path : String) : Except IoError Unit × Disk :=
  d.attempt (.remove path) fun d => do
    match ← d.nodeAt path with
    | (l, some (.file _)) => return ((), d.eraseNode l)
    | (_, some .directory) => throw .isADirectory
    | (_, none) => throw .notFound

/-- The entries of a directory by name, and whether they are directories. -/
def entriesOf (d : Disk) (l : Location) : List (String × Bool) :=
  d.nodes.filterMap fun (place, n) =>
    match place.getLast? with
    | some name =>
      if place.dropLast = l then some (name, n = .directory) else none
    | none => none

def list (d : Disk) (path : String) : Except IoError (List (String × Bool)) × Disk :=
  d.attempt (.list path) fun d => do
    match ← d.nodeAt path with
    | (l, some .directory) => return (d.entriesOf l, d)
    | (_, some (.file _)) => throw .notADirectory
    | (_, none) => throw .notFound

def makeDirectory (d : Disk) (path : String) : Except IoError Unit × Disk :=
  d.attempt (.makeDirectory path) fun d => do
    let l ← d.resolve path
    match d.node? l with
    | some _ => throw .alreadyExists
    | none => return ((), d.putNode l .directory)

def isDirectory (d : Disk) (path : String) : Bool :=
  match d.nodeAt path with
  | .ok (_, some .directory) => true
  | _ => false

/-- Makes a directory, unless it is there already. -/
def ensureDirectory (d : Disk) (path : String) : Except IoError Unit × Disk :=
  match d.makeDirectory path with
  | (.ok (), d) => (.ok (), d)
  | (.error fault, d) => (if d.isDirectory path then .ok () else .error fault, d)

/-- Makes a directory and the missing ones above it; each path is shorter than the one below. -/
def makeDirectoriesWithin : Nat → Disk → String → Except IoError Unit × Disk
  | 0, d, _ => (.error .notFound, d)
  | depth + 1, d, path =>
    if path.isEmpty then (.ok (), d)
    else match d.makeDirectory path with
      | (.ok (), d) => (.ok (), d)
      | (.error .notFound, d) =>
        match Path.parent? path with
        | none => (.error .notFound, d)
        | some parent =>
          match makeDirectoriesWithin depth d parent with
          | (.ok (), d) => d.ensureDirectory path
          | failed => failed
      | (.error fault, d) => (if d.isDirectory path then .ok () else .error fault, d)

def makeDirectories (d : Disk) (path : String) : Except IoError Unit × Disk :=
  makeDirectoriesWithin (path.length + 1) d path

/-- The text of a file. -/
def readText (d : Disk) (path : String) : Except IoError String × Disk :=
  match d.read path with
  | (.ok bytes, d) =>
    match Utf8.decode bytes with
    | .ok text => (.ok text, d)
    | .error _ => (.error .notUtf8, d)
  | (.error fault, d) => (.error fault, d)

end Operations

end Disk

end BulkTransfer
