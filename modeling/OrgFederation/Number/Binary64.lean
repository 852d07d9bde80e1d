namespace OrgFederation

/-- A finite binary64 number is a sign and `significand * 2 ^ exponent`. -/
structure Binary64 where
  negative : Bool
  significand : Nat
  exponent : Int
  deriving DecidableEq, Repr, Inhabited

namespace Binary64

/-- The least exponent, which the subnormal numbers and zero have. -/
def leastExponent : Int := -1074

/-- The greatest exponent of a finite number. -/
def greatestExponent : Int := 971

/-- Zero has a sign of its own. -/
def zero (negative : Bool) : Binary64 :=
  ⟨negative, 0, leastExponent⟩

def isZero (number : Binary64) : Bool :=
  number.significand == 0

/-- A quotient rounds to the nearest integer, and a tie goes to the even one. -/
def roundQuotient (numerator denominator : Nat) : Nat :=
  let quotient := numerator / denominator
  let twice := 2 * (numerator % denominator)
  if denominator < twice || (twice == denominator && quotient % 2 == 1) then
    quotient + 1
  else
    quotient

/-- The quotient divided by `2 ^ exponent`, as a numerator and a denominator. -/
def scaled (numerator denominator : Nat) (exponent : Int) : Nat × Nat :=
  if 0 ≤ exponent then
    (numerator, denominator * Nat.pow 2 exponent.toNat)
  else
    (numerator * Nat.pow 2 (-exponent).toNat, denominator)

/-- The exponent at which a quotient has a significand of fifty-three bits. -/
def fittingExponent (numerator denominator : Nat) : Int :=
  let guess : Int := (numerator.log2 : Int) - (denominator.log2 : Int) - 52
  let (top, bottom) := scaled numerator denominator guess
  let exponent := if top < bottom * Nat.pow 2 52 then guess - 1 else guess
  max exponent leastExponent

/-- The number nearest to a quotient, or nothing when that is beyond the greatest number. -/
def nearest (negative : Bool) (numerator denominator : Nat) : Option Binary64 :=
  if numerator = 0 then
    some (zero negative)
  else
    let exponent := fittingExponent numerator denominator
    let (top, bottom) := scaled numerator denominator exponent
    let significand := roundQuotient top bottom
    let (significand, exponent) :=
      if significand = Nat.pow 2 53 then (Nat.pow 2 52, exponent + 1) else (significand, exponent)
    if greatestExponent < exponent then none else some ⟨negative, significand, exponent⟩

/-- The magnitude of a number as a quotient. -/
def magnitude (number : Binary64) : Nat × Nat :=
  if 0 ≤ number.exponent then
    (number.significand * Nat.pow 2 number.exponent.toNat, 1)
  else
    (number.significand, Nat.pow 2 (-number.exponent).toNat)

/-- The sign of a product or quotient is negative when the two signs differ. -/
def multiply (left right : Binary64) : Option Binary64 :=
  let (leftTop, leftBottom) := left.magnitude
  let (rightTop, rightBottom) := right.magnitude
  nearest (left.negative != right.negative) (leftTop * rightTop) (leftBottom * rightBottom)

/-- The divisor is not zero. -/
def divide (left right : Binary64) : Option Binary64 :=
  let (leftTop, leftBottom) := left.magnitude
  let (rightTop, rightBottom) := right.magnitude
  nearest (left.negative != right.negative) (leftTop * rightBottom) (leftBottom * rightTop)

end Binary64

end OrgFederation
