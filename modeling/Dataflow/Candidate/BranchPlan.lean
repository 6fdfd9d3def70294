import Dataflow.Sorted.Map

namespace Dataflow

/-!
# Branch plans

A branch plan tells by which candidate each branching node before it is executed.  Two candidates can
only be used together if their branch plans agree, for otherwise a node would be executed twice.
-/

/-- Candidate identifiers of branching nodes, by node identifier. -/
abbrev BranchPlan := SortedMap Nat Nat

namespace BranchPlan

/-- Add one choice, unless another candidate is chosen for that node already. -/
def choose? (plan : BranchPlan) (choice : Nat × Nat) : Option BranchPlan :=
  match plan.get? choice.1 with
  | some earlier => if earlier = choice.2 then some (plan.insert choice.1 choice.2) else none
  | none => some (plan.insert choice.1 choice.2)

/-- All choices of some branch plans, unless two of them disagree on a node. -/
def merge? (plans : List BranchPlan) : Option BranchPlan :=
  plans.foldlM (fun merged plan => plan.entries.foldlM choose? merged) .empty

end BranchPlan

end Dataflow
