/-
This file finds the shortest decimal of a binary64 number: of all decimals that round to the
number, those with the fewest digits, and of these the nearest.
-/

import OrgFederation.Number.Binary64

namespace OrgFederation

/-- A positive decimal is `digits * 10 ^ exponent`. -/
structure Decimal where
  digits : Nat
  exponent : Int
  deriving DecidableEq, Repr

namespace Decimal

/-- The digits of a number from the first to the last. -/
def digitsOf (number : Nat) : List Char :=
  Nat.toDigits 10 number

/-- The same decimal without zeros at the end of its digits. -/
def stripped (decimal : Decimal) : Nat → Decimal
  | 0 => decimal
  | steps + 1 =>
      if decimal.digits % 10 == 0 && decimal.digits != 0 then
        stripped ⟨decimal.digits / 10, decimal.exponent + 1⟩ steps
      else
        decimal

end Decimal

namespace Binary64

/-- The quotient is at least `10 ^ exponent`. -/
def reaches (numerator denominator : Nat) (exponent : Int) : Bool :=
  if 0 ≤ exponent then
    denominator * Nat.pow 10 exponent.toNat ≤ numerator
  else
    denominator ≤ numerator * Nat.pow 10 (-exponent).toNat

/-- The greatest exponent whose power of ten a quotient reaches, searched upwards. -/
def decimalExponentFrom (numerator denominator : Nat) (exponent : Int) : Nat → Int
  | 0 => exponent
  | steps + 1 =>
      if reaches numerator denominator (exponent + 1) then
        decimalExponentFrom numerator denominator (exponent + 1) steps
      else
        exponent

/-- The exponent of the leading decimal digit of a positive quotient. -/
def decimalExponent (numerator denominator : Nat) : Int :=
  let binary : Int := (numerator.log2 : Int) - (denominator.log2 : Int)
  decimalExponentFrom numerator denominator (Int.fdiv (binary * 30103) 100000 - 2) 5

/-- The rounding interval of a positive number in quarters of its last place. -/
structure Interval where
  low : Nat
  high : Nat
  closed : Bool

/-- The interval is narrower below the least significand of a binade, and holds its ends exactly
when the significand is even. -/
def interval (number : Binary64) : Interval where
  low :=
    if number.significand == Nat.pow 2 52 && leastExponent < number.exponent then
      4 * number.significand - 1
    else
      4 * number.significand - 2
  high := 4 * number.significand + 2
  closed := number.significand % 2 == 0

/-- A decimal is in the interval when it lies between the ends, or on one of a closed interval. -/
def Interval.holds (range : Interval) (exponent : Int) (decimal : Decimal) : Bool :=
  let (decimalTop, decimalBottom) :=
    if 0 ≤ decimal.exponent then (decimal.digits * Nat.pow 10 decimal.exponent.toNat, 1)
    else (decimal.digits, Nat.pow 10 (-decimal.exponent).toNat)
  let (unitTop, unitBottom) :=
    if 2 ≤ exponent then (Nat.pow 2 (exponent - 2).toNat, 1)
    else (1, Nat.pow 2 (2 - exponent).toNat)
  let value := decimalTop * unitBottom
  let low := range.low * unitTop * decimalBottom
  let high := range.high * unitTop * decimalBottom
  if range.closed then low ≤ value && value ≤ high else low < value && value < high

/-- The two neighbours of a number on the grid of decimals with the given exponent; the nearer one
that rounds to the number is taken, and the even one on a tie. -/
def onGrid? (number : Binary64) (exponent : Int) : Option Decimal :=
  let (top, bottom) := number.magnitude
  let (top, bottom) :=
    if 0 ≤ exponent then (top, bottom * Nat.pow 10 exponent.toNat)
    else (top * Nat.pow 10 (-exponent).toNat, bottom)
  let below := top / bottom
  let nearestDigits := roundQuotient top bottom
  let otherDigits := if nearestDigits = below then below + 1 else below
  [nearestDigits, otherDigits].findSome? fun digits =>
    let decimal : Decimal := ⟨digits, exponent⟩
    if digits != 0 && number.interval.holds number.exponent decimal then some decimal else none

/-- The first grid that holds a decimal of the number, from the coarsest grid on. -/
def shortestFrom (number : Binary64) (exponent : Int) : Nat → Decimal
  | 0 => ⟨number.significand, 0⟩
  | steps + 1 =>
      match number.onGrid? exponent with
      | some decimal => decimal.stripped 20
      | none => shortestFrom number (exponent - 1) steps

/-- Seventeen digits always suffice. -/
def shortest (number : Binary64) : Decimal :=
  let (top, bottom) := number.magnitude
  shortestFrom number (decimalExponent top bottom) 17

/-- Numbers from `10 ^ -5` up to `10 ^ 16` are written positionally with a point, all others with
one digit before the point and a signed exponent. -/
def text (number : Binary64) : String :=
  let sign := if number.negative then "-" else ""
  if number.isZero then
    sign ++ "0.0"
  else
    let decimal := number.shortest
    let digits := Decimal.digitsOf decimal.digits
    let point : Int := digits.length + decimal.exponent
    let body :=
      if 0 ≤ decimal.exponent && point ≤ 16 then
        digits ++ List.replicate decimal.exponent.toNat '0' ++ ['.', '0']
      else if 0 < point && point ≤ 16 then
        digits.take point.toNat ++ '.' :: digits.drop point.toNat
      else if -5 < point && point ≤ 0 then
        '0' :: '.' :: List.replicate (-point).toNat '0' ++ digits
      else
        let exponent := point - 1
        let mark := if exponent < 0 then ['e', '-'] else ['e', '+']
        let fraction := if digits.length = 1 then [] else '.' :: digits.drop 1
        digits.take 1 ++ fraction ++ mark ++ Decimal.digitsOf exponent.natAbs
    sign ++ String.ofList body

end Binary64

end OrgFederation
