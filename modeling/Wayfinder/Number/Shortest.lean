import Wayfinder.Number.Binary64

/-!
# The shortest decimal of a number

A binary64 number is shown with the fewest decimal digits that read back as it, and of those with the
digits nearest to it. It is written positionally when its decimal exponent is at least `-4` and below
sixteen, always with a point; otherwise with an exponent of at least two digits.
-/

namespace Wayfinder.Number

/-- A positive decimal: `digits * 10 ^ exponent`. -/
structure Decimal where
  digits : Nat
  exponent : Int
  deriving DecidableEq, Repr

/-- The decimal exponent of a positive fraction: the largest `k` with `10 ^ k` not above it. -/
def decimalExponent (numerator denominator : Nat) : Int :=
  if denominator ≤ numerator then (toString (numerator / denominator)).length - 1
  else -((toString ((denominator + numerator - 1) / numerator - 1)).length : Int)

/-- The decimals that are read as the number `significand * 2 ^ exponent`: those between the two
bounds, which are given in quarters of the last binary place and belong to them if the significand is
even. -/
def readsBack (significand : Nat) (exponent : Int) (decimal : Decimal) : Bool :=
  let (top, bottom) := scaleDecimal decimal.digits 1 decimal.exponent
  let (top, bottom) := scaleBinary top bottom (2 - exponent)
  let below := if significand == fullSignificand && -1074 < exponent then 1 else 2
  let low := (4 * significand - below) * bottom
  let high := (4 * significand + 2) * bottom
  if significand % 2 == 0 then low ≤ top && top ≤ high else low < top && top < high

/-- The decimal of a given number of digits that is read as a positive number and nearest to it. -/
def decimalOfLength? (significand : Nat) (exponent : Int) (length : Nat) : Option Decimal :=
  let (numerator, denominator) := scaleBinary significand 1 exponent
  let place := decimalExponent numerator denominator - length + 1
  let (top, bottom) := scaleDecimal numerator denominator (-place)
  let nearest := roundHalfEven top bottom
  let other := if nearest == top / bottom then nearest + 1 else nearest - 1
  if readsBack significand exponent ⟨nearest, place⟩ then some ⟨nearest, place⟩
  else if readsBack significand exponent ⟨other, place⟩ then some ⟨other, place⟩
  else none

/-- The shortest decimal that is read as a positive number. Seventeen digits always suffice. -/
def shortest (significand : Nat) (exponent : Int) : Decimal :=
  ((List.range 17).findSome? fun length =>
    decimalOfLength? significand exponent (length + 1)).getD ⟨significand, exponent⟩

/-- The digits of a decimal without zeros at the end, and the exponent of the first of them. -/
def Decimal.leading (decimal : Decimal) : List Char × Int :=
  let digits := (toString decimal.digits).toList
  ((digits.reverse.dropWhile (· == '0')).reverse, decimal.exponent + digits.length - 1)

/-- The text of a decimal. -/
def Decimal.render (decimal : Decimal) : String :=
  let (digits, exponent) := decimal.leading
  let zeros (count : Int) : List Char := List.replicate count.toNat '0'
  if -4 ≤ exponent && exponent < 16 then
    let whole := digits.take (exponent + 1).toNat ++ zeros (exponent + 1 - digits.length)
    let part := zeros (-exponent - 1) ++ digits.drop (exponent + 1).toNat
    String.ofList ((if whole.isEmpty then ['0'] else whole) ++ '.' ::
      (if part.isEmpty then ['0'] else part))
  else
    let mantissa := match digits with
      | [] => []
      | [digit] => [digit]
      | digit :: rest => digit :: '.' :: rest
    let size := (toString exponent.natAbs).toList
    String.ofList (mantissa ++ 'e' :: (if exponent < 0 then '-' else '+') ::
      zeros (2 - size.length) ++ size)

/-- The text of a number. -/
def Binary64.render : Binary64 → String
  | .notANumber => "nan"
  | .infinite negative => if negative then "-inf" else "inf"
  | .finite negative significand exponent =>
    (if negative then "-" else "") ++
      (if significand == 0 then "0.0" else (shortest significand exponent).render)

end Wayfinder.Number
