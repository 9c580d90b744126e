import BulkTransfer.Number.Double
/-!
# Numbers read from text

Integers of a fixed range and doubles, read from a whole text with nothing around them. A text that
is no number is refused with its cause.
-/
namespace BulkTransfer

/-- The value of a digit in a base up to thirty-six. -/
def digitValue? (base : Nat) (c : Char) : Option Nat :=
  let value? :=
    if '0' ≤ c ∧ c ≤ '9' then some (c.toNat - '0'.toNat)
    else if 'a' ≤ c ∧ c ≤ 'z' then some (c.toNat - 'a'.toNat + 10)
    else if 'A' ≤ c ∧ c ≤ 'Z' then some (c.toNat - 'A'.toNat + 10)
    else none
  value?.filter (· < base)

inductive IntegerFault where
  | empty
  | invalidDigit
  | tooLarge
  | tooSmall
  deriving DecidableEq, Repr

def IntegerFault.message : IntegerFault → String
  | .empty => "cannot parse integer from empty string"
  | .invalidDigit => "invalid digit found in string"
  | .tooLarge => "number too large to fit in target type"
  | .tooSmall => "number too small to fit in target type"

/-- A range of integers; a sign `-` is read only where the range has negative members. -/
structure IntegerRange where
  least : Int
  greatest : Int
  deriving DecidableEq, Repr

namespace IntegerRange

def signed64 : IntegerRange := ⟨-0x8000000000000000, 0x7FFFFFFFFFFFFFFF⟩
def unsigned64 : IntegerRange := ⟨0, 0xFFFFFFFFFFFFFFFF⟩
def signed32 : IntegerRange := ⟨-0x80000000, 0x7FFFFFFF⟩
def unsigned8 : IntegerRange := ⟨0, 0xFF⟩

def contains (range : IntegerRange) (n : Int) : Bool := range.least ≤ n && n ≤ range.greatest

/-- Reads digits from the left. The first digit that leaves the range ends the reading, so a text
with both faults has the one that comes first. -/
def readDigits (range : IntegerRange) (base : Nat) (isNegative : Bool) :
    List Char → Int → Except IntegerFault Int
  | [], acc => .ok acc
  | c :: rest, acc =>
    match digitValue? base c with
    | none => .error .invalidDigit
    | some digit =>
      let next := if isNegative then acc * base - digit else acc * base + digit
      if range.contains next then readDigits range base isNegative rest next
      else .error (if isNegative then .tooSmall else .tooLarge)

def readBase (range : IntegerRange) (base : Nat) (text : List Char) : Except IntegerFault Int :=
  match text with
  | [] => .error .empty
  | ['+'] | ['-'] => .error .invalidDigit
  | '+' :: rest => range.readDigits base false rest 0
  | '-' :: rest =>
    if range.least < 0 then range.readDigits base true rest 0 else .error .invalidDigit
  | _ => range.readDigits base false text 0

def read (range : IntegerRange) (text : String) : Except IntegerFault Int :=
  range.readBase 10 text.toList

end IntegerRange

inductive DoubleFault where
  | empty
  | invalid
  deriving DecidableEq, Repr

def DoubleFault.message : DoubleFault → String
  | .empty => "cannot parse float from empty string"
  | .invalid => "invalid float literal"

namespace Double

def digitsValue (digits : List Char) : Nat :=
  digits.foldl (fun acc c => acc * 10 + (c.toNat - '0'.toNat)) 0

/-- An exponent part: nothing, or `e` with an optional sign and at least one digit. -/
def readExponent? : List Char → Option Int
  | [] => some 0
  | e :: rest =>
    if e = 'e' ∨ e = 'E' then
      let (isNegative, digits) := match rest with
        | '-' :: ds => (true, ds)
        | '+' :: ds => (false, ds)
        | ds => (false, ds)
      if digits.isEmpty || !digits.all Char.isDigit then none
      else some (if isNegative then -(digitsValue digits : Int) else digitsValue digits)
    else none

/-- Digits, an optional point and an optional exponent; one digit at least beside the point. -/
def readUnsigned? (isNegative : Bool) (text : List Char) : Option Double :=
  let whole := text.takeWhile Char.isDigit
  let afterWhole := text.dropWhile Char.isDigit
  let (fraction, rest) := match afterWhole with
    | '.' :: tail => (tail.takeWhile Char.isDigit, tail.dropWhile Char.isDigit)
    | other => ([], other)
  if whole.isEmpty && fraction.isEmpty then none
  else (readExponent? rest).map fun exponent =>
    ofDecimal isNegative (digitsValue (whole ++ fraction)) (exponent - fraction.length)

/-- Decimal notation, or `inf`, `infinity` or `nan` in any case, with an optional sign. -/
def read (text : String) : Except DoubleFault Double :=
  let (isNegative, body) := match text.toList with
    | '-' :: rest => (true, rest)
    | '+' :: rest => (false, rest)
    | all => (false, all)
  if text.isEmpty then .error .empty
  else
    match String.ofList (body.map Char.toLower) with
    | "inf" | "infinity" => .ok (infinity isNegative)
    | "nan" => .ok (nan isNegative)
    | _ => match readUnsigned? isNegative body with
      | some value => .ok value
      | none => .error .invalid

end Double

end BulkTransfer
