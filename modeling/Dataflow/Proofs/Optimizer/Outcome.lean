import Dataflow.Proofs.Physical.Collection
import Dataflow.Search.Optimizer

namespace Dataflow.Optimizer

/-!
# Outcomes of the optimizer

The optimizer returns a plan when there is a sink, the graph is accepted, every visit succeeds, and there is
a consistent choice of sink candidates whose foundations can be collected.
-/

variable {Number : Type} [Arithmetic Number]
variable {optimizer : Optimizer Number} {plan : Plan Number} {graph : Graph plan.program}

/-- The run of the optimizer's enumeration over the whole graph. -/
def run (optimizer : Optimizer Number) (plan : Plan Number) (graph : Graph plan.program) :
    Advance Number :=
  (optimizer.enumeration plan graph).visitAll graph.order
    { nextCandidate := optimizer.nextCandidate
      events := [.jobStarted plan.job.name] ++ [.graphCollected graph.size] }

/-- The surviving candidates of the sinks after a run. -/
def sinkCandidates (plan : Plan Number) (progress : Progress Number) : List (List (Candidate Number)) :=
  plan.sinks.map (Enumeration.candidatesOf progress)

omit [Arithmetic Number] in
theorem exists_eq_ok_of_isOk
    {outcome : Except (PlanError Number) (PhysicalPlan Number)}
    (isOk : outcome.isOk = true) :
    ∃ physical, outcome = .ok physical := by
  cases outcome with
  | error failure => exact absurd isOk Bool.false_ne_true
  | ok physical => exact ⟨physical, rfl⟩

omit [Arithmetic Number] in
/-- Whether planning ends with a given failure can be decided, although plans cannot be compared. -/
instance decidableEqError
    [DecidableEq Number]
    (outcome : Except (PlanError Number) (PhysicalPlan Number))
    (failure : PlanError Number) :
    Decidable (outcome = .error failure) :=
  match outcome with
  | .ok _ => isFalse nofun
  | .error other => decidable_of_iff (other = failure) (by simp)

omit [Arithmetic Number] in
theorem mapError_eq_ok_iff
    {outcome : Except OperatorFault (PhysicalPlan Number)}
    {wrap : OperatorFault → PlanError Number}
    {physical : PhysicalPlan Number} :
    outcome.mapError wrap = .ok physical ↔ outcome = .ok physical := by
  cases outcome with
  | error fault => exact ⟨nofun, nofun⟩
  | ok written =>
      constructor
      · exact fun same => congrArg _ (Except.ok.inj same)
      · exact fun same => congrArg _ (Except.ok.inj same)

theorem select_eq_ok_iff
    {progress : Progress Number}
    {physical : PhysicalPlan Number} :
    optimizer.select plan graph progress = .ok physical ↔
      ∃ roots, selectSinks optimizer.weights (sinkCandidates plan progress) = some roots ∧
        PhysicalPlan.ofCandidates plan.job (graph.order.map plan.program.identifier) roots = .ok physical := by
  have sameCandidates : (plan.sinks.map fun sink =>
      progress.candidates (plan.program.identifier sink)) = sinkCandidates plan progress := rfl
  simp only [select, sameCandidates]
  cases selected : selectSinks optimizer.weights (sinkCandidates plan progress) with
  | none => cases plan.sinks <;> simp
  | some roots =>
      simp only [mapError_eq_ok_iff, Option.some.injEq, exists_eq_left']

theorem optimize_eq_ok_iff
    {physical : PhysicalPlan Number} :
    (optimizer.optimize plan).outcome = .ok physical ↔
      plan.sinks ≠ [] ∧
        ∃ graph, Graph.ofSinks plan.program plan.sinks = .ok graph ∧
          (optimizer.run plan graph).failure = none ∧
          optimizer.select plan graph (optimizer.run plan graph).progress = .ok physical := by
  unfold optimize
  cases sinks : plan.sinks with
  | nil => simp
  | cons first rest =>
      cases accepted : Graph.ofSinks plan.program (first :: rest) with
      | error fault => simp
      | ok graph =>
          have run_eq : (optimizer.enumeration plan graph).visitAll graph.order
              { nextCandidate := optimizer.nextCandidate
                events := [.jobStarted plan.job.name] ++ [.graphCollected graph.size] } =
                  optimizer.run plan graph := rfl
          simp only [searchGraph, run_eq]
          cases failed : (optimizer.run plan graph).failure with
          | none => simp [failed]
          | some failure => simp [failed]

omit [Arithmetic Number] in
theorem mapError_eq_error_iff
    {outcome : Except OperatorFault (PhysicalPlan Number)}
    {fault : OperatorFault} :
    (outcome.mapError .invalidOperator : Except (PlanError Number) (PhysicalPlan Number)) =
        .error (.invalidOperator fault) ↔
      outcome = .error fault := by
  cases outcome with
  | error other =>
      show Except.error (PlanError.invalidOperator other) = .error (.invalidOperator fault) ↔ _
      simp
  | ok written => exact ⟨nofun, nofun⟩

theorem select_eq_invalidOperator_iff
    {progress : Progress Number}
    {fault : OperatorFault} :
    optimizer.select plan graph progress = .error (.invalidOperator fault) ↔
      ∃ roots, selectSinks optimizer.weights (sinkCandidates plan progress) = some roots ∧
        roots.reverse.foldlM Candidate.collect [] = .error fault := by
  have sameCandidates : (plan.sinks.map fun sink =>
      progress.candidates (plan.program.identifier sink)) = sinkCandidates plan progress := rfl
  simp only [select, sameCandidates]
  cases selected : selectSinks optimizer.weights (sinkCandidates plan progress) with
  | none => cases plan.sinks <;> simp
  | some roots =>
      simp only [mapError_eq_error_iff, PhysicalPlan.ofCandidates_eq_error_iff, Option.some.injEq,
        exists_eq_left']

/-- On an accepted graph an operator is at fault only in the selection. -/
theorem optimize_eq_invalidOperator_iff
    (accepted : Graph.ofSinks plan.program plan.sinks = .ok graph)
    {fault : OperatorFault} :
    (optimizer.optimize plan).outcome = .error (.invalidOperator fault) ↔
      (optimizer.run plan graph).failure = none ∧
        optimizer.select plan graph (optimizer.run plan graph).progress =
          .error (.invalidOperator fault) := by
  unfold optimize
  cases sinks : plan.sinks with
  | nil =>
      -- Without sinks nothing is chosen, and there is nothing to collect.
      have notAtFault : ∀ progress,
          optimizer.select plan graph progress ≠ .error (.invalidOperator fault) := by
        intro progress atFault
        obtain ⟨roots, isLeast, failed⟩ := select_eq_invalidOperator_iff.mp atFault
        have isChoice := (List.mem_filter.mp (mem_of_firstLeast isLeast)).1
        obtain rfl : roots = [] := by simpa [sinkCandidates, sinks] using isChoice
        exact nomatch failed
      simp [notAtFault]
  | cons first rest =>
      rw [sinks] at accepted
      have run_eq : (optimizer.enumeration plan graph).visitAll graph.order
          { nextCandidate := optimizer.nextCandidate
            events := [.jobStarted plan.job.name] ++ [.graphCollected graph.size] } =
              optimizer.run plan graph := rfl
      simp only [accepted, searchGraph, run_eq]
      cases failed : (optimizer.run plan graph).failure with
      | none => simp
      | some failure =>
          have notAtFault : failure ≠ .invalidOperator fault := by
            rintro rfl
            exact Enumeration.visitAll_failure_ne_invalidOperator failed
          simp [notAtFault]

end Dataflow.Optimizer
