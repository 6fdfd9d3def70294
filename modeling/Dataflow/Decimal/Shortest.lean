import Dataflow.Decimal.Binary

namespace Dataflow.Decimal

/-!
# Shortest decimals

The decimal with the fewest digits that reads back as a given double, and the nearest one of these.
All comparisons are made in exact arithmetic on natural numbers.
-/

/-- The decimal number `coefficient * 10 ^ exponent`. -/
structure Digits where
  coefficient : Nat
  exponent : Int
  deriving Repr, DecidableEq

/-- The same number without zeros at the end of its coefficient. -/
def Digits.trim (digits : Digits) : Digits :=
  if h : 0 < digits.coefficient ∧ digits.coefficient % 10 = 0 then
    Digits.trim ⟨digits.coefficient / 10, digits.exponent + 1⟩
  else
    digits
termination_by digits.coefficient
decreasing_by exact Nat.div_lt_self h.1 (by decide)

/--
A positive number together with the interval of all numbers that round to it, on one denominator.
-/
structure Neighbourhood where
  lower : Nat
  value : Nat
  upper : Nat
  denominator : Nat
  /-- Whether the ends of the interval belong to it. -/
  closed : Bool
  deriving Repr, DecidableEq

namespace Neighbourhood

/--
The neighbourhood of `significand * 2 ^ exponent`.  Its ends lie half way to the adjacent doubles, of
which the lower one is only half as far away when the number is a power of two.
-/
def ofBinary (significand : Nat) (exponent : Int) : Neighbourhood :=
  let scale := twoTo (exponent - 2).toNat
  let below := if significand = leastNormal ∧ leastExponent < exponent then 1 else 2
  { lower := (4 * significand - below) * scale
    value := 4 * significand * scale
    upper := (4 * significand + 2) * scale
    denominator := twoTo (2 - exponent).toNat
    closed := decide (significand % 2 = 0) }

/-- A decimal of the grid `10 ^ exponent` scaled to be compared with the scaled bounds. -/
def gridUnit (interval : Neighbourhood) (exponent : Int) : Nat :=
  interval.denominator * tenTo exponent.toNat

/-- The factor by which bounds are scaled to be compared with the decimals of a grid. -/
def boundUnit (exponent : Int) : Nat := tenTo (-exponent).toNat

/-- Whether `coefficient * 10 ^ exponent` lies in the interval. -/
def contains (interval : Neighbourhood) (digits : Digits) : Bool :=
  let point := digits.coefficient * interval.gridUnit digits.exponent
  let lower := interval.lower * boundUnit digits.exponent
  let upper := interval.upper * boundUnit digits.exponent
  if interval.closed then
    decide (lower ≤ point ∧ point ≤ upper)
  else
    decide (lower < point ∧ point < upper)

/-- The nearest decimal of a grid that lies in the interval, if there is one. -/
def nearestOnGrid?
    (interval : Neighbourhood)
    (tie : Tie)
    (exponent : Int) :
    Option Digits :=
  let scaled := interval.value * boundUnit exponent
  let unit := interval.gridUnit exponent
  let floor : Digits := ⟨scaled / unit, exponent⟩
  let ceiling : Digits := ⟨scaled / unit + 1, exponent⟩
  let preferred := if tie.roundsUp floor.coefficient (scaled % unit) unit then ceiling else floor
  if interval.contains preferred then
    some preferred
  else
    [floor, ceiling].find? interval.contains

/-- The exponent of the leading decimal digit. -/
def leadingExponent (interval : Neighbourhood) : Int :=
  let guess := floorLog2 interval.value interval.denominator * 30103 / 100000 + 1
  let isAtMost : Int → Bool := fun exponent =>
    decide (interval.gridUnit exponent ≤ interval.value * boundUnit exponent)
  ([guess, guess - 1, guess - 2].find? isAtMost).getD (guess - 3)

/-- Seventeen digits are enough to tell any two doubles apart. -/
def maxDigits : Nat := 17

/-- The shortest decimal in the interval, and the nearest one of these. -/
def shortest (interval : Neighbourhood) (tie : Tie) : Digits :=
  let leading := interval.leadingExponent
  let grids : List Int := (List.range maxDigits).map fun (finer : Nat) => leading - finer
  let found := grids.findSome? (interval.nearestOnGrid? tie)
  (found.getD ⟨interval.value / interval.denominator, 0⟩).trim

end Neighbourhood

/-- The shortest decimal that reads back as `significand * 2 ^ exponent`. -/
def shortest (tie : Tie) (significand : Nat) (exponent : Int) : Digits :=
  if significand = 0 then
    ⟨0, 0⟩
  else
    (Neighbourhood.ofBinary significand exponent).shortest tie

end Dataflow.Decimal
