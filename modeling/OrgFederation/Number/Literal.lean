/-
This file gives numeric literals their values. A literal without point and exponent that fits 64
bits is an integer; every other literal is a binary64 number made of the leading digits that fit 64
bits and one power of ten, each step rounded to nearest.
-/

import OrgFederation.Number.Binary64
import OrgFederation.Number.Word64

namespace OrgFederation

/-- A number is an integer of 64 bits, signed or unsigned, or a finite binary64 number. -/
inductive Number where
  | integer (value : Int)
  | binary64 (value : Binary64)
  deriving DecidableEq, Repr, Inhabited

/-- The parts of a numeric literal; digits are values below ten. -/
structure Literal where
  negative : Bool
  whole : List Nat
  fraction : List Nat
  exponent : Option Int
  deriving DecidableEq, Repr

namespace Literal

/-- Digits are taken up while the significand still fits 64 bits; the others are left over. -/
def absorb (significand : Nat) : List Nat → Nat × List Nat
  | [] => (significand, [])
  | digit :: rest =>
      if Word64.greatest < significand * 10 + digit then
        (significand, digit :: rest)
      else
        absorb (significand * 10 + digit) rest

/-- One correctly rounded power of ten of at most 308 scales a number; a smaller exponent is first
raised by dividing. A 64-bit significand is zero after two such divisions. -/
def scaleByTen (number : Binary64) (exponent : Int) : Nat → Option Binary64
  | 0 => some (.zero number.negative)
  | steps + 1 =>
      if exponent.natAbs ≤ 308 then do
        let power ← Binary64.nearest false (Nat.pow 10 exponent.natAbs) 1
        if 0 ≤ exponent then number.multiply power else number.divide power
      else if number.isZero then
        some number
      else if 0 ≤ exponent then
        none
      else do
        let power ← Binary64.nearest false (Nat.pow 10 308) 1
        let smaller ← number.divide power
        scaleByTen smaller (exponent + 308) steps

/-- The number `significand * 10 ^ exponent`, or nothing when it is too great. -/
def binary64? (negative : Bool) (significand : Nat) (exponent : Int) : Option Binary64 := do
  let number ← Binary64.nearest negative significand 1
  scaleByTen number exponent 4

/-- The value of a literal, or nothing when it is out of range. The negative zero is binary64, and
so is a negative integer below the signed range. -/
def value? (literal : Literal) : Option Number :=
  let (significand, left) := absorb 0 literal.whole
  if literal.fraction.isEmpty && literal.exponent.isNone && left.isEmpty then
    if !literal.negative then
      some (.integer significand)
    else if 1 ≤ significand && Word64.leastSigned ≤ -(significand : Int) then
      some (.integer (-(significand : Int)))
    else
      (binary64? true significand 0).map .binary64
  else
    let (significand, unread) := absorb significand literal.fraction
    let places : Int := literal.fraction.length - unread.length
    let shift : Int := left.length - places + literal.exponent.getD 0
    (binary64? literal.negative significand shift).map .binary64

end Literal

end OrgFederation
