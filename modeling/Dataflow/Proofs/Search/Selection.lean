import Dataflow.Proofs.Candidate.Renumbering
import Dataflow.Proofs.Search.Combinations
import Dataflow.Proofs.WholeNumber
import Dataflow.Search.Selection

namespace Dataflow

/-!
# The least choice

The choice for the sinks is one that no other consistent choice undercuts.  It is the same one under new
identifiers of the candidates, for these have no influence on its costs and on its consistency.
-/

variable {Number : Type} [Arithmetic Number]

section Least

variable [StrictlyCompared Number] {Item : Type} {cost : Item → Number}

theorem not_lt_cheaper
    {first second other : Item}
    (least : ¬ cost other < cost first ∨ other = second) :
    ¬ cost other < cost (cheaper cost first second) := by
  intro undercuts
  unfold cheaper at undercuts
  split at undercuts
  · rename_i less
    rcases least with notBelow | rfl
    · exact notBelow (StrictlyCompared.trans undercuts less)
    · exact StrictlyCompared.irrefl _ undercuts
  · rename_i notLess
    rcases least with notBelow | rfl
    · exact notBelow undercuts
    · exact notLess undercuts

/-- What is compared with all elements in turn is undercut by none of them, nor by what was not below before. -/
theorem not_lt_foldl_cheaper
    {first other : Item}
    {rest : List Item}
    (least : ¬ cost other < cost first ∨ other ∈ rest) :
    ¬ cost other < cost (rest.foldl (cheaper cost) first) := by
  induction rest generalizing first with
  | nil => exact least.resolve_right (by simp)
  | cons second later inductionHypothesis =>
      apply inductionHypothesis
      rcases least with notBelow | isThere
      · exact .inl (not_lt_cheaper (.inl notBelow))
      · rcases List.mem_cons.mp isThere with isSecond | isLater
        · exact .inl (not_lt_cheaper (.inr isSecond))
        · exact .inr isLater

theorem not_lt_of_firstLeast
    {items : List Item}
    {least other : Item}
    (found : firstLeast cost items = some least)
    (isThere : other ∈ items) :
    ¬ cost other < cost least := by
  cases items with
  | nil => exact absurd isThere (by simp)
  | cons first rest =>
      obtain rfl := Option.some.inj found
      apply not_lt_foldl_cheaper
      rcases List.mem_cons.mp isThere with rfl | inRest
      · exact .inl (StrictlyCompared.irrefl _)
      · exact .inr inRest

end Least

/-- Some consistent choice for the sinks costs less in total. -/
def Undercut
    (weights : Weights Number)
    (sinks : List (List (Candidate Number)))
    (chosen : List (Candidate Number)) : Prop :=
  ∃ other ∈ combinations sinks, areConsistent other = true ∧
    totalWeightedCost weights other < totalWeightedCost weights chosen

instance
    (weights : Weights Number)
    (sinks : List (List (Candidate Number)))
    (chosen : List (Candidate Number)) :
    Decidable (Undercut weights sinks chosen) :=
  inferInstanceAs (Decidable (∃ other ∈ combinations sinks, areConsistent other = true ∧
    totalWeightedCost weights other < totalWeightedCost weights chosen))

theorem not_undercut_of_selectSinks
    [StrictlyCompared Number]
    {weights : Weights Number}
    {sinks : List (List (Candidate Number))}
    {chosen : List (Candidate Number)}
    (selected : selectSinks weights sinks = some chosen) :
    ¬ Undercut weights sinks chosen := by
  rintro ⟨other, isChoice, consistent, undercuts⟩
  exact not_lt_of_firstLeast selected (List.mem_filter.mpr ⟨isChoice, consistent⟩) undercuts

section Renumbering

variable {renumbering : Renumbering} {weights : Weights Number} {chosen : List (Candidate Number)}

omit [Arithmetic Number] in
theorem areConsistent_renumber :
    areConsistent (chosen.map (Candidate.renumber renumbering)) = areConsistent chosen := by
  have samePlans : (chosen.map (Candidate.renumber renumbering)).map Candidate.branchPlan =
      (chosen.map Candidate.branchPlan).map (BranchPlan.renumber renumbering) := by
    simp
  rw [areConsistent, areConsistent, samePlans, BranchPlan.merge?_renumber, Option.isSome_map]

theorem totalWeightedCost_renumber :
    totalWeightedCost weights (chosen.map (Candidate.renumber renumbering)) =
      totalWeightedCost weights chosen := by
  have sameCost : Candidate.weightedCost weights ∘ Candidate.renumber renumbering =
      Candidate.weightedCost weights := by
    funext candidate
    simp only [Function.comp_apply, Candidate.weightedCost, Candidate.cumulativeCost_renumber]
  rw [totalWeightedCost, totalWeightedCost, List.map_map, sameCost]

theorem firstLeast_map
    {Item Image : Type}
    {cost : Image → Number}
    {convert : Item → Image}
    {items : List Item} :
    firstLeast cost (items.map convert) = (firstLeast (cost ∘ convert) items).map convert := by
  have cheaper_convert : ∀ first second, cheaper cost (convert first) (convert second) =
      convert (cheaper (cost ∘ convert) first second) := by
    intro first second
    unfold cheaper
    exact (apply_ite convert _ _ _).symm
  cases items with
  | nil => rfl
  | cons first rest =>
      rw [List.map_cons, firstLeast, firstLeast, Option.map_some, List.foldl_map]
      exact congrArg some (List.foldl_hom convert cheaper_convert)

/-- The same candidates are selected under new identifiers. -/
theorem selectSinks_renumber
    {sinks : List (List (Candidate Number))} :
    selectSinks weights (sinks.map (List.map (Candidate.renumber renumbering))) =
      (selectSinks weights sinks).map (List.map (Candidate.renumber renumbering)) := by
  have sameConsistent : (areConsistent ∘ List.map (Candidate.renumber renumbering) :
      List (Candidate Number) → Bool) = areConsistent := funext fun chosen => areConsistent_renumber
  have sameTotal : totalWeightedCost weights ∘ List.map (Candidate.renumber renumbering) =
      totalWeightedCost weights := funext fun chosen => totalWeightedCost_renumber
  rw [selectSinks, selectSinks, combinations_map_map, List.filter_map, firstLeast_map, sameConsistent, sameTotal]

end Renumbering

end Dataflow
