import Dataflow.Arithmetic

namespace Dataflow

/-!
# Comparisons of costs

Nothing is asked of the numbers but that their comparison is irreflexive and transitive, as that of doubles
is although undefined ones compare with nothing.  Where costs are defined, ties are ties for all others as
well.  Doubles are rounded when they are added, so what needs exact sums is said of numbers that have them.
On whole numbers the planner can be run inside a proof.
-/

/-- The comparison of numbers is irreflexive and transitive. -/
class StrictlyCompared (Number : Type) [Arithmetic Number] : Prop where
  irrefl : ∀ number : Number, ¬ number < number
  trans : ∀ {first second third : Number}, first < second → second < third → first < third

/-- A defined number is above the first or below the last of any two numbers that are in order. -/
class TotallyCompared (Number : Type) [Arithmetic Number] : Prop extends StrictlyCompared Number where
  divides : ∀ {first middle last : Number}, Arithmetic.isUndefined middle = false →
    first < last → first < middle ∨ middle < last

namespace TotallyCompared

variable {Number : Type} [Arithmetic Number] [TotallyCompared Number] {first middle last : Number}

theorem not_lt_trans
    (defined : Arithmetic.isUndefined middle = false)
    (before : ¬ middle < first)
    (after : ¬ last < middle) :
    ¬ last < first := by
  intro less
  rcases divides defined less with lastFirst | middleFirst
  · exact after lastFirst
  · exact before middleFirst

theorem lt_of_lt_of_not_lt
    (defined : Arithmetic.isUndefined last = false)
    (before : first < middle)
    (after : ¬ last < middle) :
    first < last :=
  (divides defined before).resolve_right after

theorem lt_of_not_lt_of_lt
    (defined : Arithmetic.isUndefined first = false)
    (before : ¬ middle < first)
    (after : middle < last) :
    first < last :=
  (divides defined after).resolve_left before

end TotallyCompared

/-- No number is undefined, and sums lose nothing by rounding. -/
class ExactlyAdded (Number : Type) [Arithmetic Number] : Prop extends TotallyCompared Number where
  isDefined : ∀ number : Number, Arithmetic.isUndefined number = false
  add_comm : ∀ first second : Number, first + second = second + first
  add_assoc : ∀ first second third : Number, first + second + third = first + (second + third)
  add_mul : ∀ first second factor : Number, (first + second) * factor = first * factor + second * factor
  not_lt_add : ∀ {first second third fourth : Number},
    ¬ second < first → ¬ fourth < third → ¬ second + fourth < first + third

/-- A whole number as a size or as a cost. -/
structure WholeNumber where
  value : Nat
  deriving Repr, DecidableEq

namespace WholeNumber

instance : Arithmetic WholeNumber where
  beq first second := first.value == second.value
  lt first second := first.value < second.value
  add first second := ⟨first.value + second.value⟩
  mul first second := ⟨first.value * second.value⟩
  div first second := ⟨first.value / second.value⟩
  decidableLt first second := inferInstanceAs (Decidable (first.value < second.value))
  ofNat value := ⟨value⟩
  neutral := ⟨0⟩
  log2 number := ⟨Nat.log2 number.value⟩
  isFinite _ := true

theorem isUndefined_eq_false (number : WholeNumber) : Arithmetic.isUndefined number = false := by
  have equal : (number.value == number.value) = true := beq_self_eq_true number.value
  exact congrArg (! ·) equal

instance : TotallyCompared WholeNumber where
  irrefl number := Nat.lt_irrefl number.value
  trans before after := Nat.lt_trans before after
  divides := by
    intro first middle last _ less
    exact Nat.lt_or_ge first.value middle.value |>.imp_right fun notBelow =>
      Nat.lt_of_le_of_lt notBelow less

instance : ExactlyAdded WholeNumber where
  isDefined := isUndefined_eq_false
  add_comm first second := congrArg mk (Nat.add_comm first.value second.value)
  add_assoc first second third := congrArg mk (Nat.add_assoc first.value second.value third.value)
  add_mul first second factor := congrArg mk (Nat.add_mul first.value second.value factor.value)
  not_lt_add notBelow notBelowNext :=
    Nat.not_lt.mpr (Nat.add_le_add (Nat.not_lt.mp notBelow) (Nat.not_lt.mp notBelowNext))

end WholeNumber

end Dataflow
