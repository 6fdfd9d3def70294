import Dataflow.Cost.Basic
import Dataflow.Proofs.WholeNumber
import Mathlib.Algebra.Field.Rat
import Mathlib.Algebra.Order.Ring.NNRat

namespace Dataflow

/-!
# Exact costs

Where nothing is lost in sums, costs can be added in any order, multiplied by a number of times, and taken away from
both sides of a comparison.  Nonnegative rational numbers are such numbers.
-/

/-- What two sums have in common can be left out of them, whether they are equal or one is smaller. -/
class ExactlyCounted (Number : Type) [Arithmetic Number] : Prop extends ExactlyAdded Number where
  zero_add : ∀ number : Number, Arithmetic.zero + number = number
  add_left_cancel : ∀ {common first second : Number}, common + first = common + second → first = second
  add_lt_add_right : ∀ {first second : Number}, first < second → ∀ common, first + common < second + common

namespace ExactlyCounted

variable {Number : Type} [Arithmetic Number] [ExactlyCounted Number]

theorem add_lt_add_iff_right
    {first second common : Number} :
    first + common < second + common ↔ first < second := by
  refine ⟨fun less => ?_, fun less => add_lt_add_right less common⟩
  by_contra notLess
  exact ExactlyAdded.not_lt_add notLess (StrictlyCompared.irrefl common) less

end ExactlyCounted

attribute [ext] Cost

namespace Cost

variable {Number : Type} [Arithmetic Number] [ExactlyCounted Number]

instance : Zero (Cost Number) := ⟨zero⟩

theorem zero_add (cost : Cost Number) : 0 + cost = cost :=
  Cost.ext (ExactlyCounted.zero_add _) (ExactlyCounted.zero_add _) (ExactlyCounted.zero_add _)

theorem add_comm (first second : Cost Number) : first + second = second + first :=
  Cost.ext (ExactlyAdded.add_comm _ _) (ExactlyAdded.add_comm _ _) (ExactlyAdded.add_comm _ _)

/-- Costs are added in each kind of work alike. -/
instance : AddCancelCommMonoid (Cost Number) where
  nsmul := nsmulRec
  zero_add := zero_add
  add_zero cost := (add_comm cost 0).trans (zero_add cost)
  add_comm := add_comm
  add_assoc _ _ _ :=
    Cost.ext (ExactlyAdded.add_assoc _ _ _) (ExactlyAdded.add_assoc _ _ _) (ExactlyAdded.add_assoc _ _ _)
  add_left_cancel _ _ _ same :=
    Cost.ext (ExactlyCounted.add_left_cancel (congrArg network same))
      (ExactlyCounted.add_left_cancel (congrArg disk same)) (ExactlyCounted.add_left_cancel (congrArg cpu same))

end Cost

/-- Logarithms are rounded down. -/
instance : Arithmetic ℚ≥0 where
  beq first second := decide (first = second)
  decidableLt := inferInstance
  ofNat value := value
  neutral := 0
  log2 number := (number.num / number.den).log2
  isFinite _ := true

instance : ExactlyCounted ℚ≥0 where
  irrefl := lt_irrefl
  trans := lt_trans
  divides _ less := (lt_or_ge _ _).imp_right fun notBelow => notBelow.trans_lt less
  isDefined number := by simp [Arithmetic.isUndefined]
  add_comm := add_comm
  add_assoc := add_assoc
  add_mul := add_mul
  not_lt_add notBelow notBelowNext := not_lt.mpr (add_le_add (not_lt.mp notBelow) (not_lt.mp notBelowNext))
  zero_add := zero_add
  add_left_cancel := add_left_cancel
  add_lt_add_right less common := add_lt_add_left less common

end Dataflow
