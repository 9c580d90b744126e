import BulkTransfer.Number.Double
/-!
# Trees

The values of configuration and task documents. The entries of an object keep their order, and a
key that is written again keeps its place.
-/
namespace BulkTransfer

/-- A number keeps its kind: an integer never equals a double. -/
inductive Number where
  | int (value : Int)
  | double (value : Double)
  deriving DecidableEq, Repr, Inhabited

inductive Tree where
  | null
  | bool (value : Bool)
  | num (value : Number)
  | str (value : String)
  | arr (items : List Tree)
  | obj (entries : List (String × Tree))
  deriving Repr, Inhabited

/-- The entries of an object, in order. -/
abbrev Entries := List (String × Tree)

namespace Entries

def get? (entries : Entries) (key : String) : Option Tree := entries.lookup key

def keys (entries : Entries) : List String := entries.map Prod.fst

/-- Replaces the value of a key in its place, or adds the key at the end. -/
def put : Entries → String → Tree → Entries
  | [], key, value => [(key, value)]
  | (k, v) :: rest, key, value =>
    if k = key then (key, value) :: rest else (k, v) :: put rest key value

/-- Removes a key; the others keep their order. -/
def erase (entries : Entries) (key : String) : Entries := entries.filter (·.1 != key)

/-- The object with these pairs written in turn. -/
def ofPairs (pairs : List (String × Tree)) : Entries :=
  pairs.foldl (fun entries (key, value) => put entries key value) []

end Entries

/-- Numeric equality, by kind: the two zeros are one double. -/
def Number.same : Number → Number → Bool
  | .int m, .int n => m == n
  | .double x, .double y => x.sameNumber y
  | _, _ => false

namespace Tree

def ofInt (n : Int) : Tree := .num (.int n)
def ofNat (n : Nat) : Tree := .num (.int n)

/-- A finite double is a number, any other is null. -/
def ofDouble (x : Double) : Tree := if x.isFinite then .num (.double x) else .null

/-- The word for a value's kind in messages. -/
def kind : Tree → String
  | .null => "null"
  | .bool _ => "boolean"
  | .num (.int _) => "long"
  | .num (.double _) => "double"
  | .str _ => "string"
  | .arr _ => "array"
  | .obj _ => "object"

mutual

/-- Equality of content: the order of an object's keys does not count. -/
def same : Tree → Tree → Bool
  | .null, .null => true
  | .bool a, .bool b => a == b
  | .num a, .num b => a.same b
  | .str a, .str b => a == b
  | .arr as, .arr bs => sameItems as bs
  | .obj as, .obj bs => as.length == bs.length && sameEntries as bs
  | _, _ => false

def sameItems : List Tree → List Tree → Bool
  | [], [] => true
  | a :: as, b :: bs => same a b && sameItems as bs
  | _, _ => false

def sameEntries : List (String × Tree) → List (String × Tree) → Bool
  | [], _ => true
  | (key, a) :: as, bs =>
    (match bs.lookup key with
      | some b => same a b
      | none => false) && sameEntries as bs

end

end Tree

end BulkTransfer
