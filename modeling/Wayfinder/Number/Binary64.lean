/-!
# Binary floating-point numbers

The numbers of the format binary64, each as a sign, a significand below `2 ^ 53` and a power of two.
Reading a decimal takes the nearest number, the even one of two equally near ones.
-/

namespace Wayfinder.Number

/-- A number of the format binary64. A finite one has the absolute value
`significand * 2 ^ exponent`, where the exponent is at least `-1074` and as small as the width of the
significand allows. -/
inductive Binary64 where
  | finite (negative : Bool) (significand : Nat) (exponent : Int)
  | infinite (negative : Bool)
  | notANumber
  deriving DecidableEq, Repr

/-- The smallest significand of a number that has all its binary places. -/
def fullSignificand : Nat := 1 <<< 52

/-- A positive rational number times a power of two, as a fraction. -/
def scaleBinary (numerator denominator : Nat) (exponent : Int) : Nat × Nat :=
  (numerator <<< exponent.toNat, denominator <<< (-exponent).toNat)

/-- A positive rational number times a power of ten, as a fraction. -/
def scaleDecimal (numerator denominator : Nat) (exponent : Int) : Nat × Nat :=
  (numerator * Nat.pow 10 exponent.toNat, denominator * Nat.pow 10 (-exponent).toNat)

/-- The whole number nearest to a fraction, the even one of two equally near ones. -/
def roundHalfEven (numerator denominator : Nat) : Nat :=
  let quotient := numerator / denominator
  let twice := 2 * (numerator % denominator)
  if denominator < twice || (denominator == twice && quotient % 2 == 1) then quotient + 1
  else quotient

namespace Binary64

/-- The number nearest to a positive fraction. -/
def ofFraction (negative : Bool) (numerator denominator : Nat) : Binary64 :=
  let magnitude : Int := (numerator.log2 : Int) - denominator.log2
  let low : Int := max (magnitude - 53) (-1074)
  let (top, bottom) := scaleBinary numerator denominator (-low)
  let exponent := if 2 * fullSignificand ≤ top / bottom then low + 1 else low
  let (top, bottom) := scaleBinary numerator denominator (-exponent)
  let rounded := roundHalfEven top bottom
  let (significand, exponent) :=
    if rounded == 2 * fullSignificand then (fullSignificand, exponent + 1) else (rounded, exponent)
  if 971 < exponent then .infinite negative else .finite negative significand exponent

/-- The number nearest to `digits * 10 ^ exponent`. -/
def ofDecimal (negative : Bool) (digits : Nat) (exponent : Int) : Binary64 :=
  let magnitude : Int := (toString digits).length + exponent
  if digits == 0 || magnitude < -330 then .finite negative 0 (-1074)
  else if 320 < magnitude then .infinite negative
  else
    let (numerator, denominator) := scaleDecimal digits 1 exponent
    ofFraction negative numerator denominator

/-- The whole number that a finite number is, if it is one. -/
def toInt? : Binary64 → Option Int
  | .finite negative significand exponent =>
    let (numerator, denominator) := scaleBinary significand 1 exponent
    if numerator % denominator == 0 then
      let whole : Int := numerator / denominator
      some (if negative then -whole else whole)
    else none
  | _ => none

/-- Whether a number is finite. -/
def isFinite : Binary64 → Bool
  | .finite _ _ _ => true
  | _ => false

/-- Whether a number is zero, of either sign. -/
def isZero : Binary64 → Bool
  | .finite _ significand _ => significand == 0
  | _ => false

end Binary64

end Wayfinder.Number
