import Dataflow.Proofs.WholeNumber
import Dataflow.Sorted.Order

namespace Dataflow

/-!
# Comparison of doubles

Doubles are ordered by their sign, then by their exponent, then by their mantissa, and an undefined one has no
place in that order.  So what is proved of totally compared numbers holds of the doubles that the planner
computes with.
-/

instance : StrictTotal Int where
  irrefl := Int.lt_irrefl
  trans := Int.lt_trans
  connected := by omega

namespace Double

open Float.Model

/--
The place of a double, compared lexicographically.  Below zero, what is larger in size comes first; both
zeros have the same place.
-/
def place? : UnpackedFloat → Option (List Int)
  | .notANumber => none
  | .infinity .negative => some [-2]
  | .finite .negative mantissa exponent _ => some [-1, -exponent, -mantissa]
  | .zero _ => some [0]
  | .finite .positive mantissa exponent _ => some [1, exponent, mantissa]
  | .infinity .positive => some [2]

theorem unpacked_lt_iff
    {first second : UnpackedFloat} :
    first.lt second = true ↔
      ∃ before ∈ place? first, ∃ after ∈ place? second, before < after := by
  rw [UnpackedFloat.lt, beq_iff_eq]
  rcases first with ⟨_ | _⟩ | _ | _ | ⟨_ | _, firstMantissa, firstExponent, _⟩ <;>
    rcases second with ⟨_ | _⟩ | _ | _ | ⟨_ | _, secondMantissa, secondExponent, _⟩
  case infinity.negative.infinity.positive => exact iff_of_true rfl ⟨[-2], rfl, [2], rfl, by decide⟩
  all_goals
    dsimp only [UnpackedFloat.compare, place?]
    simp [List.cons_lt_cons_iff, Ordering.then_eq_lt, Ordering.then_eq_gt, Int.compare_eq_lt,
      Int.compare_eq_gt, Nat.compare_eq_lt, Nat.compare_eq_gt]

theorem lt_iff
    {first second : Float} :
    first < second ↔
      ∃ before ∈ place? first.toModel.unpack, ∃ after ∈ place? second.toModel.unpack,
        before < after := by
  rw [← unpacked_lt_iff]
  exact decide_eq_true_iff

theorem exists_place_of_defined
    {number : Float}
    (defined : Arithmetic.isUndefined number = false) :
    ∃ place, place? number.toModel.unpack = some place := by
  have equal : (number == number) = true := by simpa [Arithmetic.isUndefined] using defined
  have sameNumber : number.toModel.unpack.beq number.toModel.unpack = true := equal
  generalize number.toModel.unpack = unpacked at sameNumber
  cases unpacked with
  | notANumber => exact absurd sameNumber Bool.false_ne_true
  | infinity sign => cases sign <;> exact ⟨_, rfl⟩
  | zero sign => exact ⟨_, rfl⟩
  | finite sign mantissa exponent positive => cases sign <;> exact ⟨_, rfl⟩

instance : TotallyCompared Float where
  irrefl number less := by
    obtain ⟨before, isBefore, after, isAfter, inOrder⟩ := lt_iff.mp less
    obtain rfl : before = after := Option.mem_unique isBefore isAfter
    exact StrictTotal.irrefl before inOrder
  trans before after := by
    obtain ⟨first, isFirst, middle, isMiddle, firstMiddle⟩ := lt_iff.mp before
    obtain ⟨same, isSame, last, isLast, middleLast⟩ := lt_iff.mp after
    obtain rfl : middle = same := Option.mem_unique isMiddle isSame
    exact lt_iff.mpr ⟨first, isFirst, last, isLast, StrictTotal.trans firstMiddle middleLast⟩
  divides := by
    intro first middle last defined less
    obtain ⟨before, isBefore, after, isAfter, inOrder⟩ := lt_iff.mp less
    obtain ⟨place, isPlace⟩ := exists_place_of_defined defined
    by_cases below : before < place
    · exact .inl (lt_iff.mpr ⟨before, isBefore, place, isPlace, below⟩)
    right
    refine lt_iff.mpr ⟨place, isPlace, after, isAfter, ?_⟩
    -- The place is that of the first number or one before it.
    by_cases above : place < before
    · exact StrictTotal.trans above inOrder
    · exact StrictTotal.connected below above ▸ inOrder

end Double

end Dataflow
