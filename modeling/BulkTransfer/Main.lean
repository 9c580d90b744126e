import BulkTransfer.CommandLine.Execution
import BulkTransfer.Disk.Change
import BulkTransfer.Plugin.BuiltIn
/-!
# The program

Takes the working directory as the disk, carries out the command line, and writes back what changed.
-/
namespace BulkTransfer.Main

/-- The files and directories below a directory, by their paths from the working directory. -/
private partial def snapshot (entries : Array IO.FS.DirEntry) (above : String) (d : Disk) :
    IO Disk := do
  let mut d := d
  for entry in entries do
    let path := above ++ entry.fileName
    if ← entry.path.isDir then
      d ← snapshot (← entry.path.readDir) (path ++ "/") (d.arrange (path ++ "/") [])
    else
      d := d.arrange path (← IO.FS.readBinFile entry.path).toList
  return d

private def apply (path : String) : DiskChange → IO Unit
  | .written content => IO.FS.writeBinFile path ⟨content.toArray⟩
  | .madeDirectory => IO.FS.createDirAll path
  | .removed => IO.FS.removeFile path

def run (arguments : List String) : IO UInt32 := do
  let before ← snapshot (← (← IO.currentDir).readDir) "" Disk.empty
  let program := CommandLine.perform Registry.builtIn arguments
  let (status, world) := program.run (World.ofDisk before)
  let changes := before.changes world.disk
  for (path, change) in changes do
    if change = .madeDirectory then apply path change
  for (path, change) in changes do
    if change ≠ .madeDirectory then apply path change
  let out ← IO.getStdout
  out.write ⟨world.printed.toArray⟩
  out.flush
  if let some complaint := status.complaint then
    IO.eprintln complaint
  return UInt32.ofNat status.code

end BulkTransfer.Main

def main (arguments : List String) : IO UInt32 := BulkTransfer.Main.run arguments
