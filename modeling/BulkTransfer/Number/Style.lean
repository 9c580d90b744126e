import BulkTransfer.Number.Shortest
/-!
# Written doubles

A double is written with its shortest digits. A `DoubleStyle` holds what a text format decides on
top of that: where positional notation ends, whether whole numbers keep `.0`, how an exponent is
signed, which way ties go, and the words for the values that are no number.
-/
namespace BulkTransfer

structure DoubleStyle where
  /-- The point positions `(low, high)` with positional notation from `low` to `high`; the position
  is the number of digits left of the point. Without it every number is positional. -/
  positional : Option (Int × Int)
  wholePoint : Bool
  exponentPlus : Bool
  tie : Tie
  nan : String
  infinity : String

namespace DoubleStyle

def zeros (n : Nat) : String := String.ofList (List.replicate n '0')

def digitsText (n : Nat) : String := String.ofList (Nat.toDigits 10 n)

/-- Digits with the point after the first `point` of them, filled with zeros where needed. -/
def positionalText (style : DoubleStyle) (digits : String) (point : Int) : String :=
  if point ≤ 0 then "0." ++ zeros (-point).toNat ++ digits
  else if digits.length ≤ point.toNat then
    digits ++ zeros (point.toNat - digits.length) ++ (if style.wholePoint then ".0" else "")
  else (digits.take point.toNat).toString ++ "." ++ (digits.drop point.toNat).toString

def scientificText (style : DoubleStyle) (digits : String) (point : Int) : String :=
  let exponent := point - 1
  let fraction := if digits.length ≤ 1 then "" else "." ++ (digits.drop 1).toString
  let sign := if exponent < 0 then "-" else if style.exponentPlus then "+" else ""
  (digits.take 1).toString ++ fraction ++ "e" ++ sign ++ digitsText exponent.natAbs

def write (style : DoubleStyle) (x : Double) : String :=
  let sign := if x.negative then "-" else ""
  if x.isNaN then style.nan
  else if x.isInfinite then sign ++ style.infinity
  else if x.isZero then sign ++ (if style.wholePoint then "0.0" else "0")
  else
    let shortest := x.shortest style.tie
    let digits := digitsText shortest.digits
    let point := shortest.exponent + digits.length
    let isPositional := match style.positional with
      | none => true
      | some (low, high) => low ≤ point && point ≤ high
    sign ++ (if isPositional then style.positionalText digits point
      else style.scientificText digits point)

end DoubleStyle

/-- Never an exponent, and whole numbers without a point. -/
def DoubleStyle.plain : DoubleStyle := ⟨none, false, false, .up, "NaN", "inf"⟩

/-- The form of numbers in JSON texts. -/
def DoubleStyle.json : DoubleStyle := ⟨some (-4, 16), true, true, .even, "null", "null"⟩

/-- The form of numbers in YAML texts. -/
def DoubleStyle.yaml : DoubleStyle := ⟨some (-4, 16), true, false, .even, ".nan", ".inf"⟩

end BulkTransfer
