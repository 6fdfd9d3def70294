import Dataflow.Proofs.Candidate.Maximality
import Dataflow.Proofs.Double

namespace Dataflow.Candidate

/-!
# Domination as an order

Domination is a strict partial order.  Only transitivity asks for a defined cost, and only for that of the
candidate in the middle: an undefined cost is neither above nor below any other, so it would connect a
candidate with a cheaper one.
-/

variable {Number : Type} [Arithmetic Number] {weights : Weights Number} {first second third : Candidate Number}

namespace Dominates

theorem irrefl
    [StrictlyCompared Number]
    (candidate : Candidate Number) :
    ¬ candidate.Dominates weights candidate :=
  fun dominates => Improves.irrefl candidate dominates.improves

theorem asymm
    [StrictlyCompared Number]
    (dominates : first.Dominates weights second) :
    ¬ second.Dominates weights first :=
  fun dominatesBack => Improves.irrefl first (dominates.improves.trans dominatesBack.improves)

theorem trans
    [TotallyCompared Number]
    (priced : second.Priced weights)
    (before : first.Dominates weights second)
    (after : second.Dominates weights third) :
    first.Dominates weights third := by
  obtain ⟨samePlan, covers, notDearer, strictly⟩ := before
  obtain ⟨samePlanNext, coversNext, notDearerNext, strictlyNext⟩ := after
  refine ⟨samePlan.trans samePlanNext, covers.trans coversNext, ?_, ?_⟩
  · exact TotallyCompared.not_lt_trans priced notDearer notDearerNext
  · -- Where either step is strict in properties, so are both together; else both are strict in cost.
    rcases strictly with cheaper | notBack
    · rcases strictlyNext with cheaperNext | notBackNext
      · exact .inl (StrictlyCompared.trans cheaper cheaperNext)
      · exact .inr fun coversBack => notBackNext (coversBack.trans covers)
    · exact .inr fun coversBack => notBack (coversNext.trans coversBack)

end Dominates

/--
Domination is irreflexive, asymmetric, and transitive through every candidate whose cost is defined.  So it is
a strict partial order on all candidates whose costs are.
-/
theorem dominates_strict_order
    [TotallyCompared Number]
    (weights : Weights Number) :
    (∀ candidate : Candidate Number, ¬ candidate.Dominates weights candidate) ∧
      (∀ first second : Candidate Number,
        first.Dominates weights second → ¬ second.Dominates weights first) ∧
      ∀ first second third : Candidate Number, second.Priced weights →
        first.Dominates weights second → second.Dominates weights third →
          first.Dominates weights third :=
  ⟨Dominates.irrefl, fun _ _ => Dominates.asymm, fun _ _ _ => Dominates.trans⟩

/-- A way to read a data set whose work is measured by a double. -/
def measuredScan (partitioning : Partitioning) (locally : LocalProperties) (work : Float) :
    Candidate Float where
  identifier := 0
  node := { identifier := 0, name := "orders", operator := .source {} }
  driver := .sourceScan
  inputs := []
  globally := { partitioning }
  locally
  parallelism := 1
  statistics := {}
  nodeCost := ⟨0, 0, work⟩
  cumulativeCost := ⟨0, 0, work⟩
  branchPlan := .empty

/--
The first scan dominates the second one by its cost alone, and this one the third by its properties alone: at
the same cost it is sorted by what the third one is only grouped by.
-/
theorem dominates_strict_order_scans :
    let cheap := measuredScan (.hash [0]) (.sortedBy (.ascending [1, 0])) 0.5
    let sorted := measuredScan (.hash [0]) (.sortedBy (.ascending [1, 0])) 2.5
    let grouped := measuredScan (.any [0, 1]) (.groupedBy (.ofList [0, 1])) 2.5
    sorted.Priced .default ∧ cheap.Dominates .default sorted ∧ sorted.Dominates .default grouped ∧
      cheap.Dominates .default grouped ∧ ¬ grouped.Dominates .default cheap := by
  intro cheap sorted grouped
  have priced : sorted.Priced .default := by decide +kernel
  have before : cheap.Dominates .default sorted := by decide +kernel
  have after : sorted.Dominates .default grouped := by decide +kernel
  obtain ⟨_, asymm, trans⟩ := dominates_strict_order (Weights.default : Weights Float)
  have both := trans _ _ _ priced before after
  exact ⟨priced, before, after, both, asymm _ _ both⟩

/-- Through a candidate of undefined cost, the dearer of two candidates would dominate the cheaper one. -/
example :
    let dear := measuredScan (.hash [0]) .none 2.5
    let undefined := measuredScan (.any [0]) .none (0.0 / 0.0)
    let cheap := measuredScan .random .none 0.5
    dear.Dominates .default undefined ∧ undefined.Dominates .default cheap ∧
      ¬ dear.Dominates .default cheap := by
  decide +kernel

end Dataflow.Candidate
