/-!
# Double-precision numbers

A double is its sixty-four bits, so equality is bit equality and every operation is a function of
natural numbers. The operations round the exact result to the nearest double, a tie to the even
significand.
-/
namespace BulkTransfer

structure Double where
  bits : UInt64
  deriving DecidableEq, Repr, Inhabited

namespace Double

def negative (x : Double) : Bool := x.bits >>> 63 == 1

def exponentField (x : Double) : Nat := ((x.bits >>> 52) &&& 0x7FF).toNat

def fractionField (x : Double) : Nat := (x.bits &&& 0xFFFFFFFFFFFFF).toNat

def isFinite (x : Double) : Bool := x.exponentField != 0x7FF

def isNaN (x : Double) : Bool := x.exponentField == 0x7FF && x.fractionField != 0

def isInfinite (x : Double) : Bool := x.exponentField == 0x7FF && x.fractionField == 0

def isZero (x : Double) : Bool := x.exponentField == 0 && x.fractionField == 0

/-- The magnitude of infinity; no finite double reaches it. -/
def infiniteMagnitude : Nat := 0x7FF0000000000000

/-- The weight of the bit in front of the fraction, which is set unless the exponent is zero. -/
def hiddenBit : Nat := 0x10000000000000

/-- A magnitude given by the sixty-three bits below the sign. -/
def ofMagnitude (isNegative : Bool) (magnitude : Nat) : Double :=
  ⟨UInt64.ofNat ((if isNegative then 0x8000000000000000 else 0) + magnitude)⟩

def zero (isNegative : Bool) : Double := ofMagnitude isNegative 0

def infinity (isNegative : Bool) : Double := ofMagnitude isNegative infiniteMagnitude

def nan (isNegative : Bool) : Double := ofMagnitude isNegative 0x7FF8000000000000

def negate (x : Double) : Double := ⟨x.bits ^^^ 0x8000000000000000⟩

/-- The significand of a finite double, in units of `2 ^ unitExponent`. -/
def significand (x : Double) : Nat :=
  if x.exponentField = 0 then x.fractionField else x.fractionField + hiddenBit

def unitExponent (x : Double) : Int :=
  if x.exponentField = 0 then -1074 else x.exponentField - 1075

/-- The quotient of two naturals rounded to the nearest natural, a tie to the even one. -/
def divideToEven (num den : Nat) : Nat :=
  let quotient := num / den
  let twice := 2 * (num % den)
  if twice > den ∨ (twice = den ∧ quotient % 2 = 1) then quotient + 1 else quotient

/-- `num / den` in units of `2 ^ unit`, rounded. -/
def scaledQuotient (num den : Nat) (unit : Int) : Nat :=
  if unit ≥ 0 then divideToEven num (den <<< unit.toNat)
  else divideToEven (num <<< (-unit).toNat) den

/-- The unit in which `num / den` has a 53-bit significand, and never less than the least unit. -/
def unitFor (num den : Nat) : Int :=
  let low : Int := (num.log2 : Int) - den.log2 - 53
  let wide :=
    if low ≥ 0 then num ≥ den <<< (53 + low.toNat)
    else num <<< (-low).toNat ≥ den <<< 53
  max (if wide then low + 1 else low) (-1074)

/-- The double nearest to `num / den`. A rounded significand of `2 ^ 53` carries into the exponent
by plain addition, and whatever reaches the largest exponent is infinite. -/
def ofRatio (isNegative : Bool) (num den : Nat) : Double :=
  if num = 0 ∨ den = 0 then zero isNegative
  else
    let unit := unitFor num den
    let rounded := scaledQuotient num den unit
    let magnitude :=
      if rounded < hiddenBit then rounded
      else (unit + 1075).toNat * hiddenBit + (rounded - hiddenBit)
    if magnitude ≥ infiniteMagnitude then infinity isNegative else ofMagnitude isNegative magnitude

/-- The double nearest to `significand * 2 ^ exponent`. -/
def ofScaled (isNegative : Bool) (significand : Nat) (exponent : Int) : Double :=
  if exponent ≥ 0 then ofRatio isNegative (significand <<< exponent.toNat) 1
  else ofRatio isNegative significand (1 <<< (-exponent).toNat)

def ofInt (n : Int) : Double := ofRatio (n < 0) n.natAbs 1

/-- The double nearest to `digits * 10 ^ exponent`. Exponents beyond every double are cut off
first: with `d` digits the value lies in `[10 ^ (exponent + d - 1), 10 ^ (exponent + d))`. -/
def ofDecimal (isNegative : Bool) (digits : Nat) (exponent : Int) : Double :=
  if digits = 0 then zero isNegative
  else
    let top := exponent + ((Nat.toDigits 10 digits).length : Int)
    if top > 400 then infinity isNegative
    else if top < -400 then zero isNegative
    else if exponent ≥ 0 then ofRatio isNegative (digits * Nat.pow 10 exponent.toNat) 1
    else ofRatio isNegative digits (Nat.pow 10 (-exponent).toNat)

/-- The rounded product of two finite doubles. -/
def times (x y : Double) : Double :=
  ofScaled (x.negative != y.negative) (x.significand * y.significand)
    (x.unitExponent + y.unitExponent)

/-- The rounded quotient of two finite doubles, the divisor not zero. -/
def dividedBy (x y : Double) : Double :=
  let unit := x.unitExponent - y.unitExponent
  if unit ≥ 0 then
    ofRatio (x.negative != y.negative) (x.significand <<< unit.toNat) y.significand
  else ofRatio (x.negative != y.negative) x.significand (y.significand <<< (-unit).toNat)

/-- Numeric equality: the two zeros are equal, and no NaN equals anything. -/
def sameNumber (x y : Double) : Bool :=
  !x.isNaN && !y.isNaN && (x == y || (x.isZero && y.isZero))

end Double

end BulkTransfer
