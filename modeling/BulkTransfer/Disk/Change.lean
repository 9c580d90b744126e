import BulkTransfer.Disk.Basic
/-!
# Changes on a disk

What differs between two looks at the same working directory, and a disk arranged by hand.
-/
namespace BulkTransfer

inductive DiskChange where
  | written (content : Bytes)
  | removed
  | madeDirectory
  deriving DecidableEq, Repr

namespace Disk

def placeText (l : Location) (n : DiskNode) : String :=
  "/".intercalate l ++ (if n = .directory then "/" else "")

/-- Files that are new or changed, places that are gone and directories that are new. -/
def changes (before after : Disk) : List (String × DiskChange) :=
  let present := after.nodes.filterMap fun (l, n) =>
    if isBase (l.take 1) || before.nodes.lookup l = some n then none
    else match n with
      | .file content => some (placeText l n, .written content)
      | .directory => some (placeText l n, .madeDirectory)
  let gone := before.nodes.filterMap fun (l, n) =>
    match after.nodes.lookup l, n with
    | none, _ => some (placeText l n, .removed)
    | some .directory, .file _ => some (placeText l n, .removed)
    | some (.file _), .directory => some (placeText l n, .removed)
    | _, _ => none
  present ++ gone

def arrangeDirectories (d : Disk) (l : Location) : Disk :=
  (List.range l.length).foldl
    (fun d i =>
      let above := l.take (i + 1)
      match d.node? above with
      | some .directory => d
      | _ => d.putNode above .directory)
    d

/-- A file put in place with the directories above it; a path that ends in a slash is a
directory. -/
def arrange (d : Disk) (path : String) (content : Bytes) : Disk :=
  let l := Path.names path |>.filter (· ≠ ".")
  if Path.endsAsDirectory path then d.arrangeDirectories l
  else (d.arrangeDirectories l.dropLast).putNode l (.file content)

/-- A file or a whole directory taken away. -/
def clear (d : Disk) (path : String) : Disk :=
  let l := Path.names path |>.filter (· ≠ ".")
  { d with nodes := d.nodes.filter fun (place, _) => !l.isPrefixOf place }

end Disk

end BulkTransfer
