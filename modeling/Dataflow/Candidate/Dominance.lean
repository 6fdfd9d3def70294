import Dataflow.Candidate.Basic

namespace Dataflow

/-!
# Dominance between candidates

A candidate is dropped when another one delivers at least as much for at most the cost.  Candidates can
only replace each other if they rest on the same choices for branching nodes.
-/

namespace Candidate

variable {Number : Type} [Arithmetic Number]

/-- The first candidate delivers properties at least as strong as the second one. -/
def Covers (first second : Candidate Number) : Prop :=
  first.globally.Implies second.globally ∧ first.locally.Implies second.locally

instance (first second : Candidate Number) : Decidable (Covers first second) :=
  inferInstanceAs (Decidable (_ ∧ _))

/--
The first candidate can replace the second one, and is strictly better in its properties or its cost.
Candidates that are equal in both are kept side by side.
-/
def Dominates (weights : Weights Number) (first second : Candidate Number) : Prop :=
  first.branchPlan = second.branchPlan ∧
    first.Covers second ∧
    ¬ second.weightedCost weights < first.weightedCost weights ∧
    (first.weightedCost weights < second.weightedCost weights ∨ ¬ second.Covers first)

instance (weights : Weights Number) (first second : Candidate Number) :
    Decidable (Dominates weights first second) :=
  inferInstanceAs (Decidable (_ ∧ _ ∧ _ ∧ _))

/-- The candidates that no other one dominates, in their order. -/
def prune (weights : Weights Number) (candidates : List (Candidate Number)) :
    List (Candidate Number) :=
  candidates.filter fun candidate =>
    decide (∀ other ∈ candidates, ¬ other.Dominates weights candidate)

/-- A candidate survives when it is there and nothing that is there dominates it. -/
@[simp]
theorem mem_prune
    {weights : Weights Number}
    {candidates : List (Candidate Number)}
    {candidate : Candidate Number} :
    candidate ∈ prune weights candidates ↔
      candidate ∈ candidates ∧ ∀ other ∈ candidates, ¬ other.Dominates weights candidate := by
  simp [prune]

end Candidate

end Dataflow
