import Dataflow.Candidate.Basic
import Dataflow.Search.Combinations

namespace Dataflow

/-!
# Selection of sink candidates

One candidate is chosen for each sink, so that all of them execute shared nodes in the same way and their
total cost is least.
-/

variable {Number : Type} [Arithmetic Number]

/-- The second element if it costs less, otherwise the first one. -/
def cheaper {Item : Type} (cost : Item → Number) (first second : Item) : Item :=
  if cost second < cost first then second else first

/-- The first element that no other one undercuts. -/
def firstLeast {Item : Type} (cost : Item → Number) : List Item → Option Item
  | [] => none
  | first :: rest => some (rest.foldl (cheaper cost) first)

/-- There is a least element unless there is none at all. -/
@[simp]
theorem firstLeast_eq_none_iff
    {Item : Type}
    {cost : Item → Number}
    {items : List Item} :
    firstLeast cost items = none ↔ items = [] := by
  cases items <;> simp [firstLeast]

/-- Comparing one element after another ends at one of them. -/
theorem foldl_cheaper_mem
    {Item : Type}
    {cost : Item → Number}
    {first : Item}
    {rest : List Item} :
    rest.foldl (cheaper cost) first ∈ first :: rest := by
  induction rest generalizing first with
  | nil => simp
  | cons second others inductionHypothesis =>
      have isEither : cheaper cost first second = first ∨ cheaper cost first second = second := by
        unfold cheaper
        split
        · exact .inr rfl
        · exact .inl rfl
      rw [List.foldl_cons]
      rcases isEither with isFirst | isSecond
      · rw [isFirst]
        rcases List.mem_cons.mp (@inductionHypothesis first) with isHead | isLater
        · rw [isHead]
          exact .head _
        · exact .tail first (.tail second isLater)
      · rw [isSecond]
        exact .tail first inductionHypothesis

theorem mem_of_firstLeast
    {Item : Type}
    {cost : Item → Number}
    {items : List Item}
    {least : Item}
    (found : firstLeast cost items = some least) :
    least ∈ items := by
  cases items with
  | nil => exact absurd found (by simp [firstLeast])
  | cons first rest => exact Option.some.inj found ▸ foldl_cheaper_mem

/-- Whether candidates execute shared nodes in the same way. -/
def areConsistent (candidates : List (Candidate Number)) : Bool :=
  (BranchPlan.merge? (candidates.map Candidate.branchPlan)).isSome

/-- The sum of the weighted costs of candidates. -/
def totalWeightedCost (weights : Weights Number) (candidates : List (Candidate Number)) : Number :=
  Arithmetic.sum (candidates.map (Candidate.weightedCost weights))

/-- The first cheapest consistent choice of one candidate for each sink. -/
def selectSinks (weights : Weights Number) (sinks : List (List (Candidate Number))) :
    Option (List (Candidate Number)) :=
  firstLeast (totalWeightedCost weights) ((combinations sinks).filter areConsistent)

end Dataflow
