import Dataflow.Proofs.Optimizer.Retention
import Dataflow.Proofs.Search.Exchange

namespace Dataflow.Optimizer

/-!
# Optimality under pruning

The choice that is selected for the sinks costs as much as the least one of retained candidates in the run in
which nothing is dropped.  It is the least one of all exactly when some least choice is retained.  This is so
where candidates dominate only others that deliver the same, for any choice can then be exchanged for a retained
one that costs no more.  Otherwise pruning can drop what all least choices are built on.
-/

variable {Number : Type} [Arithmetic Number]
variable {optimizer : Optimizer Number} {plan : Plan Number} {graph : Graph plan.program}

/-- A consistent choice for the sinks that pruning retains. -/
structure RetainedChoice
    (weights : Weights Number)
    (plan : Plan Number)
    (full : Progress Number)
    (chosen : List (Candidate Number)) : Prop where
  isChoice : chosen ∈ combinations (sinkCandidates plan full)
  consistent : areConsistent chosen = true
  retained : ∀ candidate ∈ chosen, Enumeration.RetainedAmong weights full plan.sinks candidate

/-- What is selected costs as much as a retained choice, and no retained choice costs less. -/
theorem exists_least_retained
    [StrictlyCompared Number]
    {enumeration : Enumeration plan.program}
    {weights : Weights Number}
    {renumbering : Renumbering}
    {progress full : Progress Number}
    {reached : List plan.program.Ref}
    (stage : enumeration.unpruned.Stage reached full)
    (within : ∀ sink ∈ plan.sinks, sink ∈ reached)
    (mirrors : ∀ sink ∈ plan.sinks, Enumeration.Mirrors weights renumbering progress full sink)
    {chosen : List (Candidate Number)}
    (selected : selectSinks weights (sinkCandidates plan progress) = some chosen) :
    (∃ least, RetainedChoice weights plan full least ∧
      totalWeightedCost weights least = totalWeightedCost weights chosen) ∧
    ∀ other, RetainedChoice weights plan full other →
      ¬ totalWeightedCost weights other < totalWeightedCost weights chosen := by
  constructor
  · obtain ⟨isChoice, consistent⟩ := List.mem_filter.mp (mem_of_firstLeast selected)
    obtain ⟨least, inFull, retained, rfl⟩ :=
      (mem_combinations_iff_retained stage within mirrors).mp isChoice
    rw [areConsistent_renumber] at consistent
    exact ⟨least, ⟨inFull, consistent, retained⟩, totalWeightedCost_renumber.symm⟩
  · intro other isRetained undercuts
    have isChoice := (mem_combinations_iff_retained stage within mirrors).mpr
      ⟨other, isRetained.isChoice, isRetained.retained, rfl⟩
    refine not_undercut_of_selectSinks selected ⟨_, isChoice, ?_, ?_⟩
    · exact areConsistent_renumber.trans isRetained.consistent
    · rw [totalWeightedCost_renumber]
      exact undercuts

/-- Exchanging each candidate for one that is not dearer makes no choice dearer. -/
theorem not_lt_totalWeightedCost
    [ExactlyAdded Number]
    {Node : Type}
    {weights : Weights Number}
    {nodes : List Node}
    {original choice : Node → Candidate Number}
    (notDearer : ∀ node ∈ nodes,
      ¬ (original node).weightedCost weights < (choice node).weightedCost weights) :
    ¬ totalWeightedCost weights (nodes.map original) < totalWeightedCost weights (nodes.map choice) := by
  suffices fromAny : ∀ first second : Number, ¬ first < second →
      ¬ ((nodes.map original).map (Candidate.weightedCost weights)).foldl (· + ·) first <
        ((nodes.map choice).map (Candidate.weightedCost weights)).foldl (· + ·) second from
    fromAny _ _ (ExactlyAdded.not_lt_refl _)
  induction nodes with
  | nil => exact fun first second notBelow => notBelow
  | cons node rest inductionHypothesis =>
      intro first second notBelow
      apply inductionHypothesis fun other isOther => notDearer other (.tail _ isOther)
      exact ExactlyAdded.not_lt_add notBelow (notDearer node (.head _))

/-- A choice for unread sinks can be exchanged for a retained one that costs no more. -/
theorem exists_retained_not_dearer
    [ExactlyAdded Number]
    {enumeration : Enumeration plan.program}
    {weights : Weights Number}
    {full : Progress Number}
    (accepted : Graph.ofSinks plan.program plan.sinks = .ok enumeration.graph)
    (unread : SinksUnread plan)
    (stage : enumeration.unpruned.Stage enumeration.graph.order full)
    (alike : ∀ ref ∈ enumeration.graph.order, Enumeration.DominatesAlike weights full ref)
    {chosen : List (Candidate Number)}
    (isChoice : chosen ∈ combinations (sinkCandidates plan full))
    (consistent : areConsistent chosen = true) :
    ∃ other, RetainedChoice weights plan full other ∧
      ¬ totalWeightedCost weights chosen < totalWeightedCost weights other := by
  -- Without sinks there is nothing to exchange, and no candidate to assign to nodes that are not reached.
  rcases List.eq_nil_or_concat chosen with rfl | ⟨_, elsewhere, _⟩
  · exact ⟨[], ⟨isChoice, consistent, by simp⟩, ExactlyAdded.not_lt_refl _⟩
  have sinksThere := Graph.mem_order_of_mem_sinks accepted
  have consistent_iff : ∀ {candidates}, candidates ∈ combinations (sinkCandidates plan full) →
      (areConsistent candidates = true ↔ Candidate.Coherent candidates) :=
    fun {_} isThere =>
      @areConsistent_iff_coherent _ _ plan enumeration.unpruned full accepted unread stage _ isThere
  obtain ⟨original, originally, rfl⟩ := stage.exists_assignment sinksThere
    (fun ref => (Graph.mem_order_of_ofSinks accepted).mp) isChoice ((consistent_iff isChoice).mp consistent)
    elsewhere
  have started : Enumeration.Exchanged enumeration.graph weights full plan.sinks [] original original :=
    ⟨.nil original, fun _ isDone => absurd isDone (by simp), fun _ isDone => absurd isDone (by simp)⟩
  obtain ⟨choice, exchanged⟩ :=
    started.visitAll stage originally alike (not_mem_inputs_of_sinksUnread accepted unread)
  have isExchanged : plan.sinks.map choice ∈ combinations (sinkCandidates plan full) :=
    map_mem_combinations fun sink isSink => exchanged.assignment.mem sink (sinksThere sink isSink)
  refine ⟨plan.sinks.map choice, ⟨isExchanged, ?_, ?_⟩, ?_⟩
  · exact (consistent_iff isExchanged).mpr (exchanged.assignment.coherent stage sinksThere)
  · intro candidate isCandidate
    obtain ⟨sink, isSink, rfl⟩ := List.mem_map.mp isCandidate
    exact ⟨sink, isSink, exchanged.retained sink (sinksThere sink isSink) (.inl isSink)⟩
  · exact not_lt_totalWeightedCost fun sink isSink =>
      (exchanged.substitutes sink (sinksThere sink isSink) (.inl isSink)).notDearer

/--
What is selected costs as much as the least retained choice of the run in which nothing is dropped.  If all
total costs are defined, no consistent choice of that run costs less exactly when no consistent choice costs less
than some retained one.  With exact sums this is so when candidates dominate only others that deliver the same.
-/
theorem not_undercut_iff_exists_retained
    [TotallyCompared Number]
    (accepted : Graph.ofSinks plan.program plan.sinks = .ok graph)
    (visited : (optimizer.run plan graph).failure = none)
    {chosen : List (Candidate Number)}
    (selected : selectSinks optimizer.weights (sinkCandidates plan (optimizer.run plan graph).progress) =
      some chosen)
    (defined : ∀ other ∈ combinations (sinkCandidates plan (optimizer.unprunedRun plan graph).progress),
      areConsistent other = true →
        Arithmetic.isUndefined (totalWeightedCost optimizer.weights other) = false) :
    (optimizer.unprunedRun plan graph).failure = none ∧
      (∃ least, RetainedChoice optimizer.weights plan (optimizer.unprunedRun plan graph).progress least ∧
        totalWeightedCost optimizer.weights least = totalWeightedCost optimizer.weights chosen) ∧
      (∀ other, RetainedChoice optimizer.weights plan (optimizer.unprunedRun plan graph).progress other →
        ¬ totalWeightedCost optimizer.weights other < totalWeightedCost optimizer.weights chosen) ∧
      (¬ Undercut optimizer.weights (sinkCandidates plan (optimizer.unprunedRun plan graph).progress) chosen ↔
        ∃ best, RetainedChoice optimizer.weights plan (optimizer.unprunedRun plan graph).progress best ∧
          ¬ Undercut optimizer.weights (sinkCandidates plan (optimizer.unprunedRun plan graph).progress)
            best) ∧
      (ExactlyAdded Number → SinksUnread plan →
        (∀ ref ∈ graph.order,
          Enumeration.DominatesAlike optimizer.weights (optimizer.unprunedRun plan graph).progress ref) →
        ¬ Undercut optimizer.weights (sinkCandidates plan (optimizer.unprunedRun plan graph).progress)
          chosen) := by
  have pruned := stage_of_run accepted visited
  have unprunedVisited : (optimizer.unprunedRun plan graph).failure = none :=
    Enumeration.unpruned_visitAll rfl (stage_start accepted _) (unprunedStage_start accepted _)
      (List.prefix_refl _) visited
  have stage := unprunedStage accepted unprunedVisited
  obtain ⟨renumbering, mirrors⟩ := Enumeration.exists_mirrors rfl pruned stage fun _ isDone => isDone
  have sinksThere := Graph.mem_order_of_mem_sinks accepted
  obtain ⟨someLeast, noneBelow⟩ := exists_least_retained stage sinksThere
    (fun sink isSink => mirrors sink (sinksThere sink isSink)) selected
  refine ⟨unprunedVisited, someLeast, noneBelow, ⟨?_, ?_⟩, ?_⟩
  · intro notUndercut
    obtain ⟨least, isRetained, sameTotal⟩ := someLeast
    refine ⟨least, isRetained, ?_⟩
    rw [Undercut, sameTotal]
    exact notUndercut
  · rintro ⟨best, isRetained, bestNotUndercut⟩ ⟨other, isChoice, consistent, undercuts⟩
    have bestDefined := defined best isRetained.isChoice isRetained.consistent
    exact TotallyCompared.not_lt_trans bestDefined (noneBelow best isRetained)
      (fun otherBelow => bestNotUndercut ⟨other, isChoice, consistent, otherBelow⟩) undercuts
  · rintro exactlyAdded unread alike ⟨other, isChoice, consistent, undercuts⟩
    obtain ⟨retained, isRetained, notDearer⟩ :=
      exists_retained_not_dearer accepted unread stage alike isChoice consistent
    exact ExactlyAdded.not_lt_trans (noneBelow retained isRetained) notDearer undercuts

/-- A join that passes on no fields, so that it delivers the same by whichever strategy, and is read twice. -/
def rejoined : Plan WholeNumber where
  program :=
    { nodes := #[
        { identifier := 0, name := "orders",
          operator := .source { records := .known ⟨100⟩, bytes := .known ⟨100⟩ } },
        { identifier := 1, name := "prices",
          operator := .source { records := .known ⟨1⟩, bytes := .known ⟨10⟩ } },
        { identifier := 2, name := "priced", inputs := [0, 1],
          operator := .join { left := [1], right := [1] } {} },
        { identifier := 3, name := "totals", inputs := [2], operator := .reduce (.ofList [1]) false none },
        { identifier := 4, name := "shares", inputs := [2, 3],
          operator := .join { left := [1], right := [1] } {} },
        { identifier := 5, name := "sink", operator := .sink, inputs := [4] }]
      fits := by
        intro position inside
        match position, inside with
        | 0, _ => exact ⟨rfl, by simp⟩
        | 1, _ => exact ⟨rfl, by simp⟩
        | 2, _ => exact ⟨rfl, by simp⟩
        | 3, _ => exact ⟨rfl, by simp⟩
        | 4, _ => exact ⟨rfl, by simp⟩
        | 5, _ => exact ⟨rfl, by simp⟩ }
  job := { name := "job" }
  sinks := [⟨5, by show 5 < 6; decide⟩]

/-- Candidates are dropped for the join and for all that reads it, but what is selected is a least choice. -/
theorem not_undercut_iff_exists_retained_rejoined :
    ∃ chosen, selectSinks Optimizer.default.weights (sinkCandidates rejoined
        (Optimizer.default.run rejoined ⟨List.finRange 6⟩).progress) = some chosen ∧
      (¬ Undercut Optimizer.default.weights (sinkCandidates rejoined
        (Optimizer.default.unprunedRun rejoined ⟨List.finRange 6⟩).progress) chosen) ∧
      ∃ best, RetainedChoice Optimizer.default.weights rejoined
          (Optimizer.default.unprunedRun rejoined ⟨List.finRange 6⟩).progress best ∧
        ¬ Undercut Optimizer.default.weights (sinkCandidates rejoined
          (Optimizer.default.unprunedRun rejoined ⟨List.finRange 6⟩).progress) best := by
  have accepted : Graph.ofSinks rejoined.program rejoined.sinks = .ok ⟨List.finRange 6⟩ :=
    Graph.ofSinks_eq_ok_iff_apart.mpr ⟨by decide +kernel, by decide +kernel⟩
  have visited : (Optimizer.default.run rejoined ⟨List.finRange 6⟩).failure = none :=
    Option.isNone_iff_eq_none.mp (by decide +kernel)
  have isSelected : (selectSinks Optimizer.default.weights (sinkCandidates rejoined
      (Optimizer.default.run rejoined ⟨List.finRange 6⟩).progress)).isSome := by decide +kernel
  have alike : ∀ ref : rejoined.program.Ref,
      ∀ candidate ∈ Enumeration.candidatesOf
        (Optimizer.default.unprunedRun rejoined ⟨List.finRange 6⟩).progress ref,
      ∀ other ∈ Enumeration.candidatesOf
        (Optimizer.default.unprunedRun rejoined ⟨List.finRange 6⟩).progress ref,
      candidate.closeBranch.Dominates Optimizer.default.weights other.closeBranch →
        candidate.globally = other.globally ∧ candidate.locally = other.locally := by
    decide +kernel
  obtain ⟨chosen, selected⟩ := Option.isSome_iff_exists.mp isSelected
  obtain ⟨_, _, _, notUndercut_iff, notUndercut⟩ := not_undercut_iff_exists_retained accepted visited selected
    fun other _ _ => WholeNumber.isUndefined_eq_false _
  have least := notUndercut inferInstance (by decide +kernel) fun ref _ candidate isCandidate other isOther _ _ =>
    alike ref candidate isCandidate other isOther
  exact ⟨chosen, selected, least, notUndercut_iff.mp least⟩

/--
A join on two fields whose result is joined on these fields again.  The first join is cheapest if it replicates
its second input, but then its result is only hashed on one field.
-/
def shortsighted : Plan WholeNumber where
  program :=
    { nodes := #[
        { identifier := 0, name := "orders",
          operator := .source
            { globally := { partitioning := .hash [0] }, records := .known ⟨10000⟩, bytes := .known ⟨100⟩ } },
        { identifier := 1, name := "prices",
          operator := .source { records := .known ⟨1⟩, bytes := .known ⟨10⟩ } },
        { identifier := 2, name := "priced", inputs := [0, 1],
          operator := .join { left := [0, 2], right := [0, 2] } { first := some (.ofList [0, 2]) },
          hints := { emitted := .known ⟨1⟩, width := .known ⟨1⟩ } },
        { identifier := 3, name := "stock",
          operator := .source { records := .known ⟨1⟩, bytes := .known ⟨1000⟩ } },
        { identifier := 4, name := "available", inputs := [2, 3],
          operator := .join { left := [0, 2], right := [0, 2] } {},
          hints := { emitted := .known ⟨1⟩, width := .known ⟨1⟩ } },
        { identifier := 5, name := "sink", operator := .sink, inputs := [4] }]
      fits := by
        intro position inside
        match position, inside with
        | 0, _ => exact ⟨rfl, by simp⟩
        | 1, _ => exact ⟨rfl, by simp⟩
        | 2, _ => exact ⟨rfl, by simp⟩
        | 3, _ => exact ⟨rfl, by simp⟩
        | 4, _ => exact ⟨rfl, by simp⟩
        | 5, _ => exact ⟨rfl, by simp⟩ }
  job := { name := "job", defaultParallelism := some 10 }
  sinks := [⟨5, by show 5 < 6; decide⟩]

/--
The least choice is not retained: its candidate of the first join, which is hashed on both fields, costs more than
the one that is hashed on one field and covers it.  Only the former spares the second join from replicating its
second input.
-/
theorem undercut_shortsighted :
    (∀ ref, (shortsighted.program.node ref).restrictions = {}) ∧
      SinksUnread shortsighted ∧
      Graph.ofSinks shortsighted.program shortsighted.sinks = .ok ⟨List.finRange 6⟩ ∧
      (Optimizer.default.optimize shortsighted).outcome.isOk = true ∧
      (Optimizer.default.unprunedRun shortsighted ⟨List.finRange 6⟩).failure = none ∧
      (selectSinks Optimizer.default.weights (sinkCandidates shortsighted
          (Optimizer.default.run shortsighted ⟨List.finRange 6⟩).progress)).map
        (totalWeightedCost Optimizer.default.weights) = some ⟨142014⟩ ∧
      ∃ other ∈ combinations (sinkCandidates shortsighted
          (Optimizer.default.unprunedRun shortsighted ⟨List.finRange 6⟩).progress),
        areConsistent other = true ∧ totalWeightedCost Optimizer.default.weights other = ⟨61204⟩ :=
  ⟨by decide +kernel, by decide +kernel,
    Graph.ofSinks_eq_ok_iff_apart.mpr ⟨by decide +kernel, by decide +kernel⟩, by decide +kernel,
    Option.isNone_iff_eq_none.mp (by decide +kernel), by decide +kernel, by decide +kernel⟩

end Dataflow.Optimizer
