import Dataflow.Proofs.Candidate.Substitution
import Dataflow.Proofs.Optimizer.Tracking
import Dataflow.Proofs.Physical.PathCosts

namespace Dataflow

/-!
# Costs of shared candidates

The cost of a candidate exceeds the cost of what is executed, because what several inputs share is counted for each of
them.  By how much depends on the candidates that are chosen for the shared nodes.  Candidates that agree on these are
ranked as what is executed for them.  Others can be ranked the other way round.
-/

namespace Cost

variable {Number : Type} [Arithmetic Number] {weights : Weights Number} {first second : Cost Number}

/-- The weighted sum of the first cost is below that of the second one. -/
def Below (weights : Weights Number) (first second : Cost Number) : Prop :=
  first.weighted weights < second.weighted weights

instance : Decidable (Below weights first second) :=
  inferInstanceAs (Decidable (first.weighted weights < second.weighted weights))

/-- Costs that exceed others by amounts of the same weight are ranked like these. -/
theorem below_add_iff
    [ExactlyCounted Number]
    {excess otherExcess : Cost Number}
    (sameWeight : excess.weighted weights = otherExcess.weighted weights) :
    Below weights (first + excess) (second + otherExcess) ↔ Below weights first second := by
  rw [Below, Below, ExactlyAdded.weighted_add, ExactlyAdded.weighted_add, sameWeight,
    ExactlyCounted.add_lt_add_iff_right]

end Cost

namespace Optimizer

variable {Number : Type} [Arithmetic Number] [ExactlyCounted Number]
variable {optimizer : Optimizer Number} {plan : Plan Number} {graph : Graph plan.program}

/-- What is executed for a candidate that is produced in a run, with the cost that is counted more than once. -/
theorem exists_comprised_of_produced
    (accepted : Graph.ofSinks plan.program plan.sinks = .ok graph)
    {done rest : List plan.program.Ref}
    {ref : plan.program.Ref}
    (order_eq : graph.order = done ++ ref :: rest)
    {start : Progress Number}
    (succeeded : ((optimizer.enumeration plan graph).visitAll done start).failure = none)
    {number : Nat}
    {candidate : Candidate Number}
    (isProduced : candidate ∈ (optimizer.enumeration plan graph).produced
      ((optimizer.enumeration plan graph).visitAll done start).progress ref number) :
    ∃ executed, candidate.Comprises executed ∧
      candidate.cumulativeCost =
        Candidate.executedCost executed + plan.program.repeatedCost ref executed := by
  have stage := stage_of_visitAll accepted order_eq succeeded
  have leading : done ++ [ref] <+: (optimizer.enumeration plan graph).graph.order :=
    ⟨rest, by simp [enumeration, order_eq]⟩
  obtain ⟨inputsDone, isNew, isThere⟩ := stage.inputs_done leading
  have once := stage.executesOnce_of_produced isThere isNew inputsDone (Enumeration.produced_of_mem isProduced)
  obtain ⟨executed, comprises⟩ := once.exists_comprised
  exact ⟨executed, comprises, stage.cumulativeCost_eq_of_produced inputsDone isProduced comprises⟩

/--
Two candidates that are produced for a node exceed the cost of what is executed for them by the same amount exactly
when what each of them repeats costs the same, as it does if they share the candidates of all nodes that are reached
along several paths.  They are then ranked as what is executed for them.
-/
theorem excess_eq_iff_repeatedCost_eq
    (accepted : Graph.ofSinks plan.program plan.sinks = .ok graph)
    {done rest : List plan.program.Ref}
    {ref : plan.program.Ref}
    (order_eq : graph.order = done ++ ref :: rest)
    {start : Progress Number}
    (succeeded : ((optimizer.enumeration plan graph).visitAll done start).failure = none)
    {number : Nat}
    {first second : Candidate Number}
    (isFirst : first ∈ (optimizer.enumeration plan graph).produced
      ((optimizer.enumeration plan graph).visitAll done start).progress ref number)
    (isSecond : second ∈ (optimizer.enumeration plan graph).produced
      ((optimizer.enumeration plan graph).visitAll done start).progress ref number) :
    ∃ executed others, first.Comprises executed ∧ second.Comprises others ∧
      (∀ excess, first.cumulativeCost = Candidate.executedCost executed + excess ↔
        excess = plan.program.repeatedCost ref executed) ∧
      (∀ excess, second.cumulativeCost = Candidate.executedCost others + excess ↔
        excess = plan.program.repeatedCost ref others) ∧
      ((∀ below, 1 < plan.program.pathCount ref below.node.identifier →
          (first.RestsOn below ↔ second.RestsOn below)) →
        plan.program.repeatedCost ref executed = plan.program.repeatedCost ref others) ∧
      ∀ weights,
        (plan.program.repeatedCost ref executed).weighted weights =
          (plan.program.repeatedCost ref others).weighted weights →
        (Cost.Below weights first.cumulativeCost second.cumulativeCost ↔
          Cost.Below weights (Candidate.executedCost executed) (Candidate.executedCost others)) := by
  obtain ⟨executed, comprises, firstCost⟩ := exists_comprised_of_produced accepted order_eq succeeded isFirst
  obtain ⟨others, otherComprises, secondCost⟩ := exists_comprised_of_produced accepted order_eq succeeded isSecond
  refine ⟨executed, others, comprises, otherComprises, fun excess => ?_, fun excess => ?_, fun shared => ?_,
    fun weights sameWeight => ?_⟩
  · rw [firstCost, add_right_inj, eq_comm]
  · rw [secondCost, add_right_inj, eq_comm]
  · apply Program.repeatedCost_congr comprises.nodup otherComprises.nodup
    intro below repeated
    rw [comprises.mem_iff, otherComprises.mem_iff]
    exact shared below repeated
  · rw [firstCost, secondCost]
    exact Cost.below_add_iff sameWeight

/--
A join that reads another join twice.  The latter is cheapest if it replicates its second input, but then its result
has to be repartitioned for both inputs that read it.
-/
def paired : Plan ℚ≥0 where
  program :=
    { nodes := #[
        { identifier := 0, name := "orders",
          operator := .source { records := .known (Arithmetic.ofNat 1), bytes := .known (Arithmetic.ofNat 16) } },
        { identifier := 1, name := "prices",
          operator := .source { records := .known (Arithmetic.ofNat 1), bytes := .known (Arithmetic.ofNat 1) } },
        { identifier := 2, name := "priced", inputs := [0, 1],
          operator := .join { left := [3], right := [3] } { first := some (.ofList [3]) },
          hints := { emitted := .known (Arithmetic.ofNat 1), width := .known (Arithmetic.ofNat 11) },
          restrictions := { drivers := some (.ofList [.repartitionHashJoin, .broadcastHashJoinSecond]) } },
        { identifier := 3, name := "paired", inputs := [2, 2],
          operator := .join { left := [3], right := [3] } {},
          hints := { emitted := .known (Arithmetic.ofNat 1), width := .known (Arithmetic.ofNat 1) },
          restrictions := { drivers := some (.ofList [.repartitionHashJoin]) } },
        { identifier := 4, name := "sink", operator := .sink, inputs := [3] }]
      fits := by
        intro position inside
        match position, inside with
        | 0, _ => exact ⟨rfl, by simp⟩
        | 1, _ => exact ⟨rfl, by simp⟩
        | 2, _ => exact ⟨rfl, by simp⟩
        | 3, _ => exact ⟨rfl, by simp⟩
        | 4, _ => exact ⟨rfl, by simp⟩ }
  job := { name := "job", defaultParallelism := some 2 }
  sinks := [⟨4, by show 4 < 5; decide⟩]

/-- The run up to the join that reads the other one twice. -/
def beforePaired : Advance ℚ≥0 :=
  (Optimizer.default.enumeration paired ⟨List.finRange 5⟩).visitAll
    [⟨0, by decide⟩, ⟨1, by decide⟩, ⟨2, by decide⟩] { nextCandidate := 0 }

/-- The candidates for the join that reads the other one twice. -/
def pairedCandidates : List (Candidate ℚ≥0) :=
  (Optimizer.default.enumeration paired ⟨List.finRange 5⟩).produced beforePaired.progress ⟨3, by decide⟩ 0

/-- A cost of whole numbers of bytes and records. -/
def wholeCost (network disk cpu : Nat) : Cost ℚ≥0 :=
  ⟨Arithmetic.ofNat network, Arithmetic.ofNat disk, Arithmetic.ofNat cpu⟩

theorem ofSinks_paired : Graph.ofSinks paired.program paired.sinks = .ok ⟨List.finRange 5⟩ :=
  Graph.ofSinks_eq_ok_iff_apart.mpr ⟨by decide +kernel, by decide +kernel⟩

theorem beforePaired_succeeded : beforePaired.failure = none :=
  Option.isNone_iff_eq_none.mp (by decide +kernel)

/-- There are two candidates for the join, which repeat different candidates of the other one. -/
theorem excess_eq_iff_repeatedCost_eq_paired :
    ∃ first ∈ pairedCandidates, ∃ second ∈ pairedCandidates, first.identifier ≠ second.identifier ∧
      ∃ executed others, first.Comprises executed ∧ second.Comprises others ∧
        first.cumulativeCost =
          Candidate.executedCost executed + paired.program.repeatedCost ⟨3, by decide⟩ executed ∧
        second.cumulativeCost =
          Candidate.executedCost others + paired.program.repeatedCost ⟨3, by decide⟩ others := by
  have twoCandidates : ∃ first ∈ pairedCandidates, ∃ second ∈ pairedCandidates,
      first.identifier ≠ second.identifier := by decide +kernel
  obtain ⟨first, isFirst, second, isSecond, different⟩ := twoCandidates
  obtain ⟨executed, others, comprises, otherComprises, firstExcess, secondExcess, _⟩ :=
    excess_eq_iff_repeatedCost_eq ofSinks_paired (by rfl) beforePaired_succeeded isFirst isSecond
  exact ⟨first, isFirst, second, isSecond, different, executed, others, comprises, otherComprises,
    (firstExcess _).mpr rfl, (secondExcess _).mpr rfl⟩

/--
The candidate that is ranked first exceeds the cost of what is executed for it by less than the other one, and what is
executed for it costs more.
-/
theorem ranking_differs_paired :
    Graph.ofSinks paired.program paired.sinks = .ok ⟨List.finRange 5⟩ ∧ beforePaired.failure = none ∧
      ∃ first ∈ pairedCandidates, ∃ second ∈ pairedCandidates,
        ∃ executed others, first.Comprises executed ∧ second.Comprises others ∧
          first.cumulativeCost = Candidate.executedCost executed + wholeCost 2 1 4 ∧
          second.cumulativeCost = Candidate.executedCost others + wholeCost 17 16 4 ∧
          Cost.Below Optimizer.default.weights first.cumulativeCost second.cumulativeCost ∧
          Cost.Below Optimizer.default.weights (Candidate.executedCost others)
            (Candidate.executedCost executed) := by
  have costs : ∃ first ∈ pairedCandidates, ∃ second ∈ pairedCandidates,
      first.cumulativeCost = wholeCost 26 13 10 ∧ second.cumulativeCost = wholeCost 34 43 10 ∧
        (Candidate.collect [] first).toOption.map Candidate.executedCost = some (wholeCost 24 12 6) ∧
        (Candidate.collect [] second).toOption.map Candidate.executedCost = some (wholeCost 17 27 6) := by
    decide +kernel
  obtain ⟨first, isFirst, second, isSecond, firstCost, secondCost, firstExecuted, secondExecuted⟩ := costs
  obtain ⟨executed, comprises, _⟩ :=
    exists_comprised_of_produced ofSinks_paired (by rfl) beforePaired_succeeded isFirst
  obtain ⟨others, otherComprises, _⟩ :=
    exists_comprised_of_produced ofSinks_paired (by rfl) beforePaired_succeeded isSecond
  have executedCost_eq : Candidate.executedCost executed = wholeCost 24 12 6 := by
    simpa [comprises.collected, Except.toOption] using firstExecuted
  have othersCost_eq : Candidate.executedCost others = wholeCost 17 27 6 := by
    simpa [otherComprises.collected, Except.toOption] using secondExecuted
  refine ⟨ofSinks_paired, beforePaired_succeeded, first, isFirst, second, isSecond, executed, others, comprises,
    otherComprises, ?_, ?_, ?_, ?_⟩
  · rw [firstCost, executedCost_eq]
    decide +kernel
  · rw [secondCost, othersCost_eq]
    decide +kernel
  · rw [firstCost, secondCost]
    decide +kernel
  · rw [executedCost_eq, othersCost_eq]
    decide +kernel

end Optimizer

end Dataflow
