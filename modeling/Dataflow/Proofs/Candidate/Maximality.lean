import Dataflow.Proofs.Candidate.Pruning

namespace Dataflow.Candidate

/-!
# Maximal candidates

Where all costs are defined, domination is a strict partial order.  Pruning then keeps its maximal elements,
and whatever is dropped is dominated by one of them.
-/

variable {Number : Type} [Arithmetic Number] {weights : Weights Number} {candidates : List (Candidate Number)}

/-- The cost of the candidate can be compared with other costs. -/
def Priced (weights : Weights Number) (candidate : Candidate Number) : Prop :=
  Arithmetic.isUndefined (candidate.weightedCost weights) = false

instance (candidate : Candidate Number) : Decidable (candidate.Priced weights) :=
  inferInstanceAs (Decidable (_ = false))

/-- Domination between candidates whose costs are defined. -/
structure Outranks (weights : Weights Number) (first second : Candidate Number) : Prop where
  firstPriced : first.Priced weights
  secondPriced : second.Priced weights
  dominates : first.Dominates weights second

namespace Outranks

theorem irrefl
    [StrictlyCompared Number]
    (candidate : Candidate Number) :
    ¬ candidate.Outranks weights candidate :=
  fun outranks => Improves.irrefl candidate outranks.dominates.improves

theorem trans
    [TotallyCompared Number]
    {first second third : Candidate Number}
    (before : first.Outranks weights second)
    (after : second.Outranks weights third) :
    first.Outranks weights third := by
  refine ⟨before.firstPriced, after.secondPriced, ?_⟩
  obtain ⟨samePlan, covers, notDearer, strictly⟩ := before.dominates
  obtain ⟨samePlanNext, coversNext, notDearerNext, strictlyNext⟩ := after.dominates
  refine ⟨samePlan.trans samePlanNext, covers.trans coversNext, ?_, ?_⟩
  · exact TotallyCompared.not_lt_trans before.secondPriced notDearer notDearerNext
  · -- One strict step makes both steps together strict.
    rcases strictly with cheaper | notBack
    · exact .inl (TotallyCompared.lt_of_lt_of_not_lt after.secondPriced cheaper notDearerNext)
    · rcases strictlyNext with cheaperNext | _
      · exact .inl (TotallyCompared.lt_of_not_lt_of_lt before.firstPriced notDearer cheaperNext)
      · exact .inr fun coversBack => notBack (coversNext.trans coversBack)

end Outranks

theorem prune_sublist : (prune weights candidates).Sublist candidates :=
  List.filter_sublist

theorem exists_survivor_dominates
    [TotallyCompared Number]
    (priced : ∀ candidate ∈ candidates, candidate.Priced weights)
    {candidate : Candidate Number}
    (isThere : candidate ∈ candidates)
    (dropped : candidate ∉ prune weights candidates) :
    ∃ survivor ∈ prune weights candidates, survivor.Dominates weights candidate := by
  have irrefl : ∀ item : Candidate Number, ¬ item.Outranks weights item := Outranks.irrefl
  obtain ⟨best, bestThere, above, unsurpassed⟩ := exists_unsurpassed irrefl Outranks.trans candidate candidates
  have inCandidates : best ∈ candidates := by
    rcases List.mem_cons.mp bestThere with same | member
    · exact same ▸ isThere
    · exact member
  have survives : best ∈ prune weights candidates := by
    refine mem_prune.mpr ⟨inCandidates, fun other isOther dominates => ?_⟩
    exact unsurpassed other (.tail _ isOther) ⟨priced other isOther, priced best inCandidates, dominates⟩
  rcases above with same | outranks
  · exact absurd (same ▸ survives) dropped
  · exact ⟨best, survives, outranks.dominates⟩

theorem prune_ne_nil
    [StrictlyCompared Number]
    (someCandidate : candidates ≠ []) :
    prune weights candidates ≠ [] := by
  obtain ⟨candidate, isThere⟩ := List.exists_mem_of_ne_nil candidates someCandidate
  have represented : ∃ survivor ∈ prune weights candidates,
      survivor.branchPlan = candidate.branchPlan ∧ survivor.Covers candidate := exists_mem_prune isThere
  obtain ⟨survivor, survives, _⟩ := represented
  exact List.ne_nil_of_mem survives

/-- No survivor is dominated by what was there, so none is dominated by what is left. -/
theorem prune_prune : prune weights (prune weights candidates) = prune weights candidates := by
  apply List.filter_eq_self.mpr
  intro survivor survives
  rw [decide_eq_true_iff]
  intro other isOther
  exact (mem_prune.mp survives).2 other (mem_prune.mp isOther).1

theorem prune_perm
    {permuted : List (Candidate Number)}
    (isPermuted : permuted.Perm candidates) :
    (prune weights permuted).Perm (prune weights candidates) := by
  have sameTest : (fun candidate => decide (∀ other ∈ permuted, ¬ other.Dominates weights candidate)) =
      fun candidate => decide (∀ other ∈ candidates, ¬ other.Dominates weights candidate) := by
    funext candidate
    rw [decide_eq_decide]
    exact ⟨fun undominated other isOther => undominated other (isPermuted.mem_iff.mpr isOther),
      fun undominated other isOther => undominated other (isPermuted.mem_iff.mp isOther)⟩
  rw [prune, prune, sameTest]
  exact isPermuted.filter _

/--
Where all costs are defined, the survivors are the candidates in their order that nothing dominates, and
every other candidate is dominated by a survivor.  There is a survivor if there is a candidate.  Pruning the
survivors drops none of them, and which candidates survive does not depend on the order.
-/
theorem prune_keeps_maximal
    [TotallyCompared Number]
    (priced : ∀ candidate ∈ candidates, candidate.Priced weights) :
    (prune weights candidates).Sublist candidates ∧
      (∀ survivor ∈ prune weights candidates, ∀ other ∈ candidates,
        ¬ other.Dominates weights survivor) ∧
      (∀ candidate ∈ candidates, candidate ∉ prune weights candidates →
        ∃ survivor ∈ prune weights candidates, survivor.Dominates weights candidate) ∧
      (candidates ≠ [] → prune weights candidates ≠ []) ∧
      prune weights (prune weights candidates) = prune weights candidates ∧
      ∀ permuted : List (Candidate Number), permuted.Perm candidates →
        (prune weights permuted).Perm (prune weights candidates) :=
  ⟨prune_sublist, fun _ survives => (mem_prune.mp survives).2,
    fun _ isThere dropped => exists_survivor_dominates priced isThere dropped,
    prune_ne_nil, prune_prune, fun _ isPermuted => prune_perm isPermuted⟩

/-- A way to read a data set, with the partitioning that it delivers and the work that it takes. -/
def scan (identifier : Nat) (partitioning : Partitioning) (work : Nat) : Candidate WholeNumber where
  identifier
  node := { identifier := 0, name := "orders", operator := .source {} }
  driver := .sourceScan
  inputs := []
  globally := { partitioning }
  locally := {}
  parallelism := 1
  statistics := {}
  nodeCost := ⟨⟨0⟩, ⟨0⟩, ⟨work⟩⟩
  cumulativeCost := ⟨⟨0⟩, ⟨0⟩, ⟨work⟩⟩
  branchPlan := .empty

/-- The first scan is dominated by the second one, and this one by the other two, which are equally good. -/
theorem prune_keeps_maximal_scans :
    let scans := [scan 0 .random 3, scan 1 (.hash [0, 1]) 2, scan 2 (.hash [0]) 1, scan 3 (.hash [0]) 1]
    (∀ candidate ∈ scans, candidate.Priced .default) ∧
      scan 0 .random 3 ∈ scans ∧
      scan 0 .random 3 ∉ prune .default scans ∧
      ∃ survivor ∈ prune .default scans, survivor.Dominates .default (scan 0 .random 3) := by
  intro scans
  have priced : ∀ candidate ∈ scans, candidate.Priced .default := by decide
  have isThere : scan 0 .random 3 ∈ scans := .head _
  have dropped : scan 0 .random 3 ∉ prune .default scans := fun survives =>
    (mem_prune.mp survives).2 (scan 1 (.hash [0, 1]) 2) (.tail _ (.head _)) (by decide)
  exact ⟨priced, isThere, dropped, (prune_keeps_maximal priced).2.2.1 _ isThere dropped⟩

end Dataflow.Candidate
