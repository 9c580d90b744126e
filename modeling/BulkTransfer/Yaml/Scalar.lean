import BulkTransfer.Number.Reader
/-!
# Plain scalars

What a scalar without quotes stands for: null, a truth value, a number, or its own text.
-/
namespace BulkTransfer.Yaml

inductive Plain where
  | null
  | bool (value : Bool)
  | int (value : Int)
  | double (value : Double)
  | text
  deriving Repr, DecidableEq

def nullWords : List String := ["null", "Null", "NULL", "~"]

def bool? (text : String) : Option Bool :=
  if text ∈ ["true", "True", "TRUE"] then some true
  else if text ∈ ["false", "False", "FALSE"] then some false
  else none

def isSign (c : Char) : Bool := c = '+' || c = '-'

def withoutSign : List Char → List Char
  | c :: rest => if isSign c then rest else c :: rest
  | [] => []

def withoutPlus : List Char → List Char
  | '+' :: rest => rest
  | text => text

def startsSigned : List Char → Bool
  | c :: _ => isSign c
  | [] => false

/-- Digits behind a leading zero: such a text is no number. -/
def isZeroLed (text : List Char) : Bool :=
  match withoutSign text with
  | '0' :: d :: rest => (d :: rest).all Char.isDigit
  | _ => false

/-- The base that a letter after a zero announces. -/
def base? (letter : Char) : Option Nat :=
  if letter = 'x' then some 16
  else if letter = 'o' then some 8
  else if letter = 'b' then some 2
  else none

def read? (range : IntegerRange) (base : Nat) (text : List Char) : Option Int :=
  (range.readBase base text).toOption

/-- An integer without a minus, in base ten or behind `0x`, `0o` or `0b`. -/
def unsigned? (range : IntegerRange) (text : List Char) : Option Int :=
  let body := withoutPlus text
  match body with
  | '0' :: letter :: digits =>
    match base? letter with
    | some base => if startsSigned digits then none else read? range base digits
    | none => if isZeroLed text then none else read? range 10 body
  | _ => if startsSigned body || isZeroLed text then none else read? range 10 body

/-- An integer with a minus. -/
def negative? (range : IntegerRange) (text : List Char) : Option Int :=
  match text with
  | '-' :: '0' :: letter :: digits =>
    match base? letter with
    | some base => read? range base ('-' :: digits)
    | none => if isZeroLed text then none else read? range 10 text
  | _ => if isZeroLed text then none else read? range 10 text

/-- Integers wider than 64 bits are recognised, so that they can be refused. -/
def signed128 : IntegerRange := 
  ⟨-0x80000000000000000000000000000000, 0x7FFFFFFFFFFFFFFFFFFFFFFFFFFFFFFF⟩

def unsigned128 : IntegerRange := ⟨0, 0xFFFFFFFFFFFFFFFFFFFFFFFFFFFFFFFF⟩

def int? (text : List Char) : Option Int :=
  (unsigned? .unsigned64 text).or <| (negative? .signed64 text).or <|
    (unsigned? unsigned128 text).or (negative? signed128 text)

/-- A finite double, or one of the words for the others. -/
def double? (text : List Char) : Option Double :=
  let body := withoutPlus text
  if text.head? = some '+' && startsSigned body then none
  else if String.ofList body ∈ [".inf", ".Inf", ".INF"] then some (Double.infinity false)
  else if String.ofList text ∈ ["-.inf", "-.Inf", "-.INF"] then some (Double.infinity true)
  else if String.ofList text ∈ [".nan", ".NaN", ".NAN"] then some (Double.nan false)
  else (Double.read (String.ofList body)).toOption.filter Double.isFinite

def plain (text : String) : Plain :=
  if text.isEmpty || text ∈ nullWords then .null
  else match bool? text with
    | some b => .bool b
    | none =>
      match int? text.toList with
      | some n => .int n
      | none =>
        if isZeroLed text.toList then .text
        else match double? text.toList with
          | some x => .double x
          | none => .text

end BulkTransfer.Yaml
