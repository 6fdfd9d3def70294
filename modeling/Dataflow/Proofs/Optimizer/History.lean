import Dataflow.Proofs.Optimizer.Outcome
import Dataflow.Proofs.Physical.Renumbering
import Dataflow.Proofs.Search.Numbering
import Dataflow.Proofs.Search.Selection

namespace Dataflow

/-!
# Plans after other plans

An optimizer numbers the candidates of all plans that it works on consecutively.  Nothing else of a plan is left
for the next one, and the numbers are only compared with each other.  What was planned before therefore has no
influence on a plan, and none on an error but for the numbers of candidates in it.
-/

/-- The error with greater identifiers of the candidates in it. -/
def PlanError.shift {Number : Type} (amount : Nat) : PlanError Number → PlanError Number
  | .invalidOperator fault => .invalidOperator (fault.shift amount)
  | error => error

variable {Number : Type} [Arithmetic Number]

namespace Optimizer

variable {optimizer : Optimizer Number} {plan : Plan Number} {graph : Graph plan.program} {amount : Nat}

theorem select_shift
    {progress later : Progress Number}
    (shifts : Enumeration.Shifts amount progress later) :
    optimizer.select plan graph later =
      (optimizer.select plan graph progress).mapError (PlanError.shift amount) := by
  have candidates_eq : sinkCandidates plan later =
      (sinkCandidates plan progress).map (List.map (Candidate.renumber (.shift amount))) := by
    rw [sinkCandidates, sinkCandidates, List.map_map]
    exact List.map_congr_left fun sink _ => shifts.candidates_eq _
  have sinkCandidates_eq : ∀ some : Progress Number, (plan.sinks.map fun sink =>
      some.candidates (plan.program.identifier sink)) = sinkCandidates plan some := fun _ => rfl
  simp only [select, sinkCandidates_eq, candidates_eq, selectSinks_renumber]
  cases selectSinks optimizer.weights (sinkCandidates plan progress) with
  | none => cases plan.sinks <;> rfl
  | some chosen =>
      simp only [Option.map_some, PhysicalPlan.ofCandidates_shift]
      cases PhysicalPlan.ofCandidates plan.job (graph.order.map plan.program.identifier) chosen <;> rfl

theorem searchGraph_shift
    {progress later : Progress Number}
    (shifts : Enumeration.Shifts amount progress later) :
    (optimizer.searchGraph plan graph later).outcome =
      (optimizer.searchGraph plan graph progress).outcome.mapError (PlanError.shift amount) := by
  have sameFailure : ((optimizer.enumeration plan graph).visitAll graph.order later).failure =
      ((optimizer.enumeration plan graph).visitAll graph.order progress).failure :=
    shifts.visitAll_failure_eq rfl graph.order
  unfold searchGraph
  simp only [sameFailure]
  cases failed : ((optimizer.enumeration plan graph).visitAll graph.order progress).failure with
  | none => exact select_shift (shifts.visitAll rfl failed)
  | some failure =>
      -- A visit fails for a reason that names no candidate.
      cases failure with
      | invalidOperator fault => exact absurd failed Enumeration.visitAll_failure_ne_invalidOperator
      | _ => rfl

/-- An optimizer that has given more numbers away comes to the same outcome under greater numbers. -/
theorem optimize_shift (optimizer : Optimizer Number) (plan : Plan Number) (amount : Nat) :
    (({ optimizer with nextCandidate := optimizer.nextCandidate + amount } : Optimizer Number).optimize
        plan).outcome =
      (optimizer.optimize plan).outcome.mapError (PlanError.shift amount) := by
  unfold optimize
  cases plan.sinks.isEmpty with
  | true => rfl
  | false =>
      cases accepted : Graph.ofSinks plan.program plan.sinks with
      | error fault =>
          -- A graph is refused for a reason that names no candidate.
          obtain ⟨first, _, second, _, _, _, rfl⟩ := Graph.exists_sharedIdentifier accepted
          rfl
      | ok graph => exact searchGraph_shift ⟨fun _ => rfl, fun _ => rfl, rfl⟩

/-- The optimizer after it has worked on plans one after another. -/
def after (optimizer : Optimizer Number) (history : List (Plan Number)) : Optimizer Number :=
  history.foldl (fun worked plan => (worked.optimize plan).optimizer) optimizer

theorem config_optimize : (optimizer.optimize plan).optimizer.config = optimizer.config := by
  unfold optimize
  split
  · rfl
  · split
    · rfl
    · unfold searchGraph
      simp only
      split <;> rfl

theorem config_after
    {history : List (Plan Number)} :
    (optimizer.after history).config = optimizer.config := by
  induction history generalizing optimizer with
  | nil => rfl
  | cons plan rest inductionHypothesis => exact inductionHypothesis.trans config_optimize

/--
Whatever an optimizer has worked on before, it returns the plan that a new optimizer with the same configuration
returns, or the error of that one with the numbers that follow those already given away.
-/
theorem optimize_after
    (config : Config Number)
    (history : List (Plan Number))
    (plan : Plan Number) :
    ((after { config } history).optimize plan).outcome =
      (optimize { config } plan).outcome.mapError
        (PlanError.shift (after { config } history).nextCandidate) := by
  have sameConfig : (after { config } history).config = config := config_after
  generalize after { config } history = used at sameConfig ⊢
  subst sameConfig
  have shifted := optimize_shift { config := used.config } plan used.nextCandidate
  rw [Nat.zero_add] at shifted
  exact shifted

end Optimizer

end Dataflow
