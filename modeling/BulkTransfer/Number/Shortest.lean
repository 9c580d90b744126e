import BulkTransfer.Number.Double
/-!
# Shortest digits

The fewest decimal digits that read back as a given double. The reals that round to the double form
an interval; the coarsest grid of multiples of a power of ten with a point in it fixes the number
of digits, and of two points the nearer one is taken.
-/
namespace BulkTransfer

/-- A decimal `digits * 10 ^ exponent`. -/
structure Decimal where
  digits : Nat
  exponent : Int
  deriving DecidableEq, Repr, Inhabited

/-- What to do when two decimals are equally near. -/
inductive Tie where
  | up
  | even
  deriving DecidableEq, Repr

namespace Double

/-- The reals that round to a double, over one denominator: `low / den`, `mid / den` (the double
itself) and `high / den`. The ends belong to it when the significand is even. -/
structure RoundingInterval where
  low : Nat
  mid : Nat
  high : Nat
  den : Nat
  closed : Bool

/-- Below a power of two the neighbour is half as far, which the factor four makes integral. -/
def roundingInterval (x : Double) : RoundingInterval :=
  let m := x.significand
  let unit := x.unitExponent - 2
  let scale := if unit ≥ 0 then 1 <<< unit.toNat else 1
  let below := if m = hiddenBit ∧ x.exponentField > 1 then 1 else 2
  { low := (4 * m - below) * scale
    mid := 4 * m * scale
    high := (4 * m + 2) * scale
    den := if unit ≥ 0 then 1 else 1 <<< (-unit).toNat
    closed := m % 2 = 0 }

namespace RoundingInterval

/-- The same interval measured in units of `10 ^ exponent`. -/
def inUnits (i : RoundingInterval) (exponent : Int) : RoundingInterval :=
  if exponent ≥ 0 then { i with den := i.den * Nat.pow 10 exponent.toNat }
  else
    let factor := Nat.pow 10 (-exponent).toNat
    { i with low := i.low * factor, mid := i.mid * factor, high := i.high * factor }

def contains (i : RoundingInterval) (n : Nat) : Bool :=
  if i.closed then i.low ≤ n * i.den && n * i.den ≤ i.high
  else i.low < n * i.den && n * i.den < i.high

/-- The integer point nearest to the middle, among the two around it that lie inside. -/
def nearestPoint? (i : RoundingInterval) (tie : Tie) : Option Nat :=
  let floor := i.mid / i.den
  let belowGap := i.mid - floor * i.den
  let aboveGap := (floor + 1) * i.den - i.mid
  match i.contains floor && floor > 0, i.contains (floor + 1) with
  | true, false => some floor
  | false, true => some (floor + 1)
  | false, false => none
  | true, true =>
    if belowGap < aboveGap then some floor
    else if aboveGap < belowGap then some (floor + 1)
    else match tie with
      | .up => some (floor + 1)
      | .even => some (if floor % 2 = 0 then floor else floor + 1)

/-- Tries the grids `10 ^ exponent`, `10 ^ (exponent - 1)`, … in turn. -/
def coarsest (i : RoundingInterval) (tie : Tie) : Nat → Int → Decimal
  | 0, exponent => ⟨0, exponent⟩
  | tries + 1, exponent =>
    match (i.inUnits exponent).nearestPoint? tie with
    | some digits => ⟨digits, exponent⟩
    | none => i.coarsest tie tries (exponent - 1)

end RoundingInterval

/-- A power of ten above every double with this top bit: `log10 2 < 0.302`. -/
def decimalTop (x : Double) : Int :=
  let top : Int := x.unitExponent + x.significand.log2 + 1
  if top ≥ 0 then top * 302 / 1000 + 1 else top * 301 / 1000 + 1

/-- Seventeen digits always suffice; the slack covers the estimate of the top. -/
def shortest (x : Double) (tie : Tie) : Decimal :=
  if x.isZero then ⟨0, 0⟩ else x.roundingInterval.coarsest tie 24 x.decimalTop

end Double

end BulkTransfer
