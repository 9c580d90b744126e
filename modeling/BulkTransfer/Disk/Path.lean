/-!
# Paths

A path is a text of names separated by slashes. Its components are its names without the empty ones
and the single dots, except for a single dot at the start.
-/
namespace BulkTransfer.Path

/-- The names between slashes, empty ones included; `name` is the current one reversed. -/
def cutAtSlashes : List Char → (name : List Char) → List (List Char)
  | [], name => [name.reverse]
  | c :: rest, name =>
    if c = '/' then name.reverse :: cutAtSlashes rest [] else cutAtSlashes rest (c :: name)

def segments (path : String) : List String :=
  (cutAtSlashes path.toList []).map String.ofList

def isAbsolute (path : String) : Bool := path.toList.head? = some '/'

/-- The path ends like a directory's: in a slash, or in a name that only a directory has. -/
def endsAsDirectory (path : String) : Bool :=
  match (segments path).getLast? with
  | some last => last ∈ ["", ".", ".."]
  | none => false

/-- The names that lead to the place of a path. -/
def names (path : String) : List String := (segments path).filter (· ≠ "")

def isComponent (name : String) (i : Nat) : Bool :=
  name ≠ "" && (name ≠ "." || i = 0)

/-- The positions of the components among the segments. -/
def componentPlaces (path : String) : List Nat :=
  ((segments path).zipIdx.filter fun (name, i) => isComponent name i).map Prod.snd

/-- The path without its last component. A path without components has no parent. -/
def parent? (path : String) : Option String :=
  match (componentPlaces path).reverse with
  | [] => none
  | [_] => some (if isAbsolute path then "/" else "")
  | _ :: previous :: _ => some ("/".intercalate ((segments path).take (previous + 1)))

/-- The last component, unless it is the step to a parent. -/
def fileName? (path : String) : Option String :=
  match (componentPlaces path).getLast? with
  | none => none
  | some i =>
    match (segments path)[i]? with
    | some name => if name = ".." ∨ name = "." then none else some name
    | none => none

/-- What follows the last dot of the file name, if something stands before that dot. -/
def extension? (path : String) : Option String :=
  match fileName? path with
  | none => none
  | some name =>
    let reversed := name.toList.reverse
    let ending := reversed.takeWhile (· ≠ '.')
    match reversed.drop ending.length with
    | _ :: _ :: _ => some (String.ofList ending.reverse)
    | _ => none

end BulkTransfer.Path
