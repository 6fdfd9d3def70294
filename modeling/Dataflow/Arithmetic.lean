namespace Dataflow

/-!
# Arithmetic of sizes and costs

Sizes and costs only rank plans, so the planner is written for any type of numbers with the operations
below.  It runs on doubles; its laws can be studied for any instance, and say which properties of the
numbers they need.
-/

/-- The operations on sizes and costs. -/
class Arithmetic (Number : Type) extends
    BEq Number, LT Number, Add Number, Mul Number, Div Number where
  decidableLt : DecidableLT Number
  /-- The number nearest to a natural number. -/
  ofNat : Nat → Number
  /-- The neutral element of addition, from which sums start. -/
  neutral : Number
  /-- The logarithm to base two. -/
  log2 : Number → Number
  /-- Whether the number is neither infinite nor undefined. -/
  isFinite : Number → Bool

namespace Arithmetic

variable {Number : Type} [Arithmetic Number]

instance (priority := low) : DecidableLT Number := decidableLt

/-- The number nought. -/
def zero : Number := ofNat 0

/-- The number one. -/
def one : Number := ofNat 1

/-- The number of a list of summands, added from left to right. -/
def sum (summands : List Number) : Number := summands.foldl (· + ·) neutral

/-- The product of a list of factors, multiplied from left to right. -/
def product (factors : List Number) : Number := factors.foldl (· * ·) one

/-- An undefined number is the only one that differs from itself. -/
def isUndefined (number : Number) : Bool := !(number == number)

/-- The larger number, or the only defined one. -/
def max (first second : Number) : Number :=
  if isUndefined first then
    second
  else if first < second then
    second
  else
    first

end Arithmetic

/-- Doubles start their sums from negative zero, which alone leaves both zeros unchanged. -/
instance : Arithmetic Float where
  decidableLt := inferInstance
  ofNat := Float.ofNat
  neutral := -0.0
  log2 := Float.log2
  isFinite := Float.isFinite

end Dataflow
