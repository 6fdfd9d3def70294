import Dataflow.Decimal.Rounding

namespace Dataflow.Decimal

/-!
# Doubles as binary fractions

A finite double is a signed natural number times a power of two.  This module takes doubles apart into
these numbers, and finds the double nearest to a quotient.
-/

/-- A power of two. -/
def twoTo (exponent : Nat) : Nat := Nat.pow 2 exponent

/-- A power of ten. -/
def tenTo (exponent : Nat) : Nat := Nat.pow 10 exponent

/-- What the bits of a double stand for. -/
inductive Binary where
  | notANumber
  | infinite (negative : Bool)
  /-- The number `significand * 2 ^ exponent`, with a sign also on zero. -/
  | finite (negative : Bool) (significand : Nat) (exponent : Int)
  deriving Repr, DecidableEq

/-- The exponent of the least positive double, which is a power of two. -/
def leastExponent : Int := -1074

/-- The least significand of a double that is not subnormal. -/
def leastNormal : Nat := twoTo 52

/-- Take 64 bits apart into sign, exponent field and fraction. -/
def Binary.ofBits (bits : Nat) : Binary :=
  let negative := decide (twoTo 63 ≤ bits)
  let field := bits / leastNormal % 2048
  let fraction := bits % leastNormal
  if field = 2047 then
    if fraction = 0 then .infinite negative else .notANumber
  else if field = 0 then
    .finite negative fraction leastExponent
  else
    .finite negative (leastNormal + fraction) (leastExponent + (field - 1 : Nat))

/-- The number that a double stands for. -/
def Binary.ofFloat (value : Float) : Binary := ofBits value.toBits.toNat

/-- The greatest power of two that is at most a positive quotient, as an exponent. -/
def floorLog2 (dividend divisor : Nat) : Int :=
  let guess : Int := (dividend.log2 : Int) - (divisor.log2 : Int)
  let isTooLarge :=
    if 0 ≤ guess then
      decide (dividend < divisor * twoTo guess.toNat)
    else
      decide (dividend * twoTo (-guess).toNat < divisor)
  if isTooLarge then guess - 1 else guess

/--
The bits of the double nearest to a quotient, an exact half going to the even neighbour.  A significand
that rounds up to the next power of two carries into the exponent field by plain addition, and a
quotient beyond all doubles becomes infinite.
-/
def nearestBits (dividend divisor : Nat) : Nat :=
  if dividend = 0 then
    0
  else
    let exponent := max leastExponent (floorLog2 dividend divisor - 52)
    let significand :=
      if 0 ≤ exponent then
        divRound .toEven dividend (divisor * twoTo exponent.toNat)
      else
        divRound .toEven (dividend * twoTo (-exponent).toNat) divisor
    let bits := (exponent - leastExponent).toNat * leastNormal + significand
    min bits (2047 * leastNormal)

/-- The double nearest to a signed quotient. -/
def nearestFloat (negative : Bool) (dividend divisor : Nat) : Float :=
  let magnitude := Float.ofBits (UInt64.ofNat (nearestBits dividend divisor))
  if negative then -magnitude else magnitude

/-- Decimal exponents from which on all positive numbers are beyond the doubles. -/
def decimalHorizon : Nat := 400

/-- The double nearest to `coefficient * 10 ^ exponent`. -/
def floatOfDecimal (negative : Bool) (coefficient : Nat) (exponent : Int) : Float :=
  if coefficient = 0 ∨ exponent + coefficient.log2 < -decimalHorizon then
    nearestFloat negative 0 1
  else if decimalHorizon < exponent then
    nearestFloat negative (tenTo decimalHorizon) 1
  else if 0 ≤ exponent then
    nearestFloat negative (coefficient * tenTo exponent.toNat) 1
  else
    nearestFloat negative coefficient (tenTo (-exponent).toNat)

end Dataflow.Decimal
