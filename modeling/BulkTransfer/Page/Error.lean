import BulkTransfer.Schema.Basic
import BulkTransfer.Tree.Reader
/-!
# Page errors

What can be wrong when a value is stored in a page or read from one.
-/
namespace BulkTransfer

/-- How the bytes of a page contradict its layout. -/
inductive PageDamage where
  | slotOutOfBounds (start : Nat)
  | contentOutOfBounds (start length : Nat)
  | notUtf8 (fault : Utf8Fault)
  deriving DecidableEq, Repr

def PageDamage.message : PageDamage → String
  | slotOutOfBounds start => "slot at " ++ toString start ++ " out of bounds"
  | contentOutOfBounds start length =>
    "variable slot " ++ toString start ++ "+" ++ toString length ++ " out of bounds"
  | notUtf8 fault => fault.message

inductive PageError where
  | typeMismatch (column : String) (expected found : ColumnType)
  | columnOutOfRange (index size : Nat)
  | recordTooLarge (size : Nat)
  | json (cause : Tree.ReadError)
  | timestampOutOfRange (seconds : Int)
  | corrupted (damage : PageDamage)
  deriving DecidableEq, Repr

def PageError.message : PageError → String
  | typeMismatch column expected found =>
    "Column '" ++ column ++ "' is " ++ expected.name ++ ", cannot store or read it as " ++
      found.name
  | columnOutOfRange index size =>
    "Column index " ++ toString index ++ " is out of range for a schema of " ++ toString size ++
      " columns"
  | recordTooLarge size =>
    "Record of " ++ toString size ++ " bytes does not fit the page offset encoding"
  | json cause => "Failed to encode json value: " ++ cause.message
  | timestampOutOfRange seconds =>
    "Stored timestamp is out of range: " ++ toString seconds ++ "s"
  | corrupted damage => "Page data is corrupted: " ++ damage.message

/-- A column must exist and have the type that is asked for. -/
def Schema.expectType (s : Schema) (index : Nat) (wanted : ColumnType) : Except PageError Unit :=
  match s.column? index with
  | none => .error (.columnOutOfRange index s.size)
  | some c => if c.type = wanted then .ok () else .error (.typeMismatch c.name c.type wanted)

end BulkTransfer
