import Dataflow.Proofs.Candidate.Pruning
import Dataflow.Proofs.Optimizer.Selection
import Dataflow.Proofs.Optimizer.Validity
import Dataflow.Proofs.Search.Assignment

namespace Dataflow.Optimizer

/-!
# Success without restrictions

When no shipping is forced and every node admits a driver whose channels always fit together, planning succeeds
whatever the numbers are: every visit succeeds, and the assignment that is left at the end of the run is a
consistent choice for the sinks.
-/

variable {Number : Type} [Arithmetic Number] [StrictlyCompared Number]
variable {optimizer : Optimizer Number} {plan : Plan Number}

/-- A run over unhindered nodes leaves an assignment of survivors. -/
theorem exists_assignment
    {graph : Graph plan.program}
    (accepted : Graph.ofSinks plan.program plan.sinks = .ok graph)
    (unhindered : ∀ ref ∈ graph.order, (optimizer.enumeration plan graph).Unhindered ref) :
    (optimizer.run plan graph).failure = none ∧
      ∃ choice, Enumeration.Assignment (optimizer.run plan graph).progress graph.order choice := by
  have represents : (optimizer.enumeration plan graph).Represents := by
    intro produced candidate isProduced
    obtain ⟨survivor, survives, samePlan, _⟩ := Candidate.exists_mem_prune isProduced
    exact ⟨survivor, survives, samePlan⟩
  -- Nothing is assigned at the start, so any choice of candidates will do.
  exact (Enumeration.Assignment.nil fun ref =>
    Assembly.instantiate { driver := .sinkForward, inputs := [] }
      ((optimizer.enumeration plan graph).context { nextCandidate := 0 } ref)
      optimizer.config.costs 0).visitAll represents (stage_start accepted _) rfl unhindered

/--
A plan is planned, whatever the numbers are, when no shipping is forced and every node admits a driver whose
channels always fit together.  Pruning leaves candidates at every node, and consistent ones at the sinks.
-/
theorem exists_optimize_eq_ok_of_unhindered
    {graph : Graph plan.program}
    (someSink : plan.sinks ≠ [])
    (accepted : Graph.ofSinks plan.program plan.sinks = .ok graph)
    (unread : SinksUnread plan)
    (unhindered : ∀ ref ∈ graph.order, (optimizer.enumeration plan graph).Unhindered ref) :
    (∃ physical, (optimizer.optimize plan).outcome = .ok physical) ∧
      (∀ ref ∈ graph.order,
        (optimizer.run plan graph).progress.candidates (plan.program.identifier ref) ≠ []) ∧
      ∃ chosen ∈ combinations (sinkCandidates plan (optimizer.run plan graph).progress),
        areConsistent chosen = true := by
  obtain ⟨visited, choice, assignment⟩ := exists_assignment accepted unhindered
  have stage := stage_of_run accepted visited
  have sinksThere := Graph.mem_order_of_mem_sinks accepted
  have isChoice : plan.sinks.map choice ∈ combinations (sinkCandidates plan (optimizer.run plan graph).progress) :=
    map_mem_combinations fun sink isSink => assignment.mem sink (sinksThere sink isSink)
  have consistent := (areConsistent_iff_coherent accepted unread stage isChoice).mpr
    (assignment.coherent stage sinksThere)
  obtain ⟨physical, selected⟩ :=
    (exists_select_eq_ok_iff accepted unread stage).mpr ⟨_, isChoice, consistent⟩
  refine ⟨⟨physical, optimize_eq_ok_iff.mpr ⟨someSink, graph, accepted, visited, selected⟩⟩, ?_,
    _, isChoice, consistent⟩
  exact fun ref isThere => List.ne_nil_of_mem (assignment.mem ref isThere)

/-- A plan that restricts no node and hides none behind the identifier of another one is planned. -/
theorem exists_optimize_eq_ok
    (someSink : plan.sinks ≠ [])
    (apart : plan.program.IdentifiersApart (plan.program.dependenciesOf plan.sinks))
    (unread : SinksUnread plan)
    (somePartition : ∀ ref ∈ plan.program.dependenciesOf plan.sinks, 0 < optimizer.parallelism plan ref)
    (unrestricted : ∀ ref ∈ plan.program.dependenciesOf plan.sinks,
      (plan.program.node ref).restrictions = {})
    (hasKeys : ∀ ref ∈ plan.program.dependenciesOf plan.sinks, (plan.program.node ref).operator.HasKeys) :
    ∃ graph, Graph.ofSinks plan.program plan.sinks = .ok graph ∧
      (∃ physical, (optimizer.optimize plan).outcome = .ok physical) ∧
      (∀ ref ∈ plan.program.dependenciesOf plan.sinks,
        (optimizer.run plan graph).progress.candidates (plan.program.identifier ref) ≠ []) ∧
      ∃ chosen ∈ combinations (sinkCandidates plan (optimizer.run plan graph).progress),
        areConsistent chosen = true := by
  have accepted := Graph.ofSinks_eq_ok_iff_apart.mpr ⟨apart, rfl⟩
  refine ⟨_, accepted, exists_optimize_eq_ok_of_unhindered someSink accepted unread ?_⟩
  intro ref isThere
  obtain ⟨driver, isDriver, compatible⟩ := (plan.program.node ref).operator.exists_lenient_driver
  have admitted : driver ∈ Enumeration.admittedDrivers (plan.program.node ref) := by
    simp [Enumeration.admittedDrivers, isDriver, unrestricted ref isThere, Restrictions.admits]
  exact ⟨by rw [unrestricted ref isThere], ⟨driver, admitted, compatible⟩, hasKeys ref isThere,
    Nat.ne_of_gt (somePartition ref isThere)⟩

theorem exists_optimize_eq_ok_diamond :
    ∃ graph, Graph.ofSinks diamond.program diamond.sinks = .ok graph ∧
      (∃ physical, (Optimizer.default.optimize diamond).outcome = .ok physical) ∧
      (∀ ref ∈ diamond.program.dependenciesOf diamond.sinks,
        (Optimizer.default.run diamond graph).progress.candidates (diamond.program.identifier ref) ≠ []) ∧
      ∃ chosen ∈ combinations (sinkCandidates diamond (Optimizer.default.run diamond graph).progress),
        areConsistent chosen = true :=
  exists_optimize_eq_ok (by decide) (by decide +kernel) (by decide +kernel) (by decide +kernel)
    (by decide +kernel) (by decide +kernel)

end Dataflow.Optimizer
