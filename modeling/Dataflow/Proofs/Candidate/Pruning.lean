import Dataflow.Candidate.Dominance
import Dataflow.Proofs.Properties.Strength
import Dataflow.Proofs.WholeNumber

namespace Dataflow.Candidate

/-!
# Pruning

Domination need not be transitive when costs are undefined, but it has no cycles: along a cycle all
candidates would deliver the same, and each would have to cost strictly less than the next one.  So every
candidate that is dropped makes way for one that survives.
-/

variable {Number : Type} [Arithmetic Number]

namespace Covers

omit [Arithmetic Number]

theorem refl (candidate : Candidate Number) : candidate.Covers candidate :=
  ⟨.refl _, .refl _⟩

theorem trans
    {first second third : Candidate Number}
    (before : first.Covers second)
    (after : second.Covers third) :
    first.Covers third :=
  ⟨before.1.trans after.1, before.2.trans after.2⟩

end Covers

/--
The first candidate delivers at least as much as the second one, and costs less if both deliver the same.
This is what remains of domination when it is followed over several candidates.
-/
structure Improves (weights : Weights Number) (first second : Candidate Number) : Prop where
  branchPlan_eq : first.branchPlan = second.branchPlan
  covers : first.Covers second
  cheaper : second.Covers first → first.weightedCost weights < second.weightedCost weights

theorem Dominates.improves
    {weights : Weights Number}
    {first second : Candidate Number}
    (dominates : first.Dominates weights second) :
    first.Improves weights second := by
  obtain ⟨branchPlan_eq, covers, _, strictly⟩ := dominates
  refine ⟨branchPlan_eq, covers, fun coversBack => ?_⟩
  exact strictly.resolve_right (not_not_intro coversBack)

namespace Improves

variable {weights : Weights Number}

theorem irrefl
    [StrictlyCompared Number]
    (candidate : Candidate Number) :
    ¬ candidate.Improves weights candidate := by
  intro improves
  exact StrictlyCompared.irrefl _ (improves.cheaper (.refl candidate))

theorem trans
    [StrictlyCompared Number]
    {first second third : Candidate Number}
    (before : first.Improves weights second)
    (after : second.Improves weights third) :
    first.Improves weights third where
  branchPlan_eq := before.branchPlan_eq.trans after.branchPlan_eq
  covers := before.covers.trans after.covers
  cheaper coversBack :=
    StrictlyCompared.trans
      (before.cheaper (after.covers.trans coversBack))
      (after.cheaper (coversBack.trans before.covers))

end Improves

/-- Among finitely many items there is an unsurpassed one above each of them. -/
theorem exists_unsurpassed
    {Item : Type}
    {Surpasses : Item → Item → Prop}
    (irrefl : ∀ item, ¬ Surpasses item item)
    (trans : ∀ {first second third},
      Surpasses first second → Surpasses second third → Surpasses first third)
    (item : Item)
    (others : List Item) :
    ∃ best ∈ item :: others, (best = item ∨ Surpasses best item) ∧
      ∀ other ∈ item :: others, ¬ Surpasses other best := by
  induction others with
  | nil => exact ⟨item, .head _, .inl rfl, by simpa using irrefl item⟩
  | cons next rest inductionHypothesis =>
      obtain ⟨best, isThere, above, unsurpassed⟩ := inductionHypothesis
      by_cases surpasses : Surpasses next best
      · -- What surpasses the next item would surpass the best one so far.
        refine ⟨next, by simp, .inr ?_, ?_⟩
        · rcases above with same | surpassesItem
          · exact same ▸ surpasses
          · exact trans surpasses surpassesItem
        · intro other isOther surpassesNext
          rcases List.mem_cons.mp isOther with rfl | inTail
          · exact unsurpassed other (.head _) (trans surpassesNext surpasses)
          · rcases List.mem_cons.mp inTail with rfl | inRest
            · exact irrefl other surpassesNext
            · exact unsurpassed other (.tail _ inRest) (trans surpassesNext surpasses)
      · refine ⟨best, ?_, above, ?_⟩
        · rcases List.mem_cons.mp isThere with same | inRest
          · exact same ▸ .head _
          · exact .tail _ (.tail _ inRest)
        · intro other isOther
          rcases List.mem_cons.mp isOther with rfl | inTail
          · exact unsurpassed other (.head _)
          · rcases List.mem_cons.mp inTail with rfl | inRest
            · exact surpasses
            · exact unsurpassed other (.tail _ inRest)

/-- For every candidate there is a survivor with the same branch plan that delivers at least as much. -/
theorem exists_mem_prune
    [StrictlyCompared Number]
    {weights : Weights Number}
    {candidates : List (Candidate Number)}
    {candidate : Candidate Number}
    (member : candidate ∈ candidates) :
    ∃ survivor ∈ prune weights candidates,
      survivor.branchPlan = candidate.branchPlan ∧ survivor.Covers candidate := by
  have irrefl : ∀ candidate : Candidate Number, ¬ candidate.Improves weights candidate :=
    Improves.irrefl
  obtain ⟨survivor, isThere, above, unsurpassed⟩ :=
    exists_unsurpassed irrefl Improves.trans candidate candidates
  have inCandidates : survivor ∈ candidates := by
    rcases List.mem_cons.mp isThere with same | member'
    · exact same ▸ member
    · exact member'
  refine ⟨survivor, mem_prune.mpr ⟨inCandidates, ?_⟩, ?_⟩
  · exact fun other isOther dominates => unsurpassed other (.tail _ isOther) dominates.improves
  · rcases above with rfl | improves
    · exact ⟨rfl, .refl survivor⟩
    · exact ⟨improves.branchPlan_eq, improves.covers⟩

end Dataflow.Candidate
