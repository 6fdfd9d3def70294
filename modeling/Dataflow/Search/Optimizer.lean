import Dataflow.Config
import Dataflow.Physical.Basic
import Dataflow.Search.Enumeration
import Dataflow.Search.Selection

namespace Dataflow

/-!
# The optimizer

From a logical plan to the cheapest physical plan that was found: collect the graph, enumerate the
candidates of every node, choose one for each sink, and write down what these are built on.
-/

/-- A planner, which numbers the candidates of all plans that it works on consecutively. -/
structure Optimizer (Number : Type) where
  config : Config Number
  nextCandidate : Nat := 0

/-- The outcome of planning, with the optimizer to be used for the next plan. -/
structure OptimizerRun (Number : Type) where
  optimizer : Optimizer Number
  events : List (SearchEvent Number)
  outcome : Except (PlanError Number) (PhysicalPlan Number)

namespace Optimizer

variable {Number : Type} [Arithmetic Number]

/-- The optimizer with the default configuration. -/
def default : Optimizer Number := { config := .default }

/-- An optimizer with a valid configuration. -/
def ofConfig (config : Config Number) : Except (ConfigFault Number) (Optimizer Number) := do
  config.validate
  return { config }

/-- The weights by which an optimizer compares costs. -/
def weights (optimizer : Optimizer Number) : Weights Number := optimizer.config.costs.weights

/-- The enumeration that an optimizer makes for a plan. -/
def enumeration
    (optimizer : Optimizer Number)
    (plan : Plan Number)
    (graph : Graph plan.program) :
    Enumeration plan.program where
  graph
  model := optimizer.config.costs
  defaultParallelism := plan.job.defaultParallelism.getD optimizer.config.defaultParallelism
  keep := Candidate.prune optimizer.weights

/-- The cheapest plan among the surviving candidates of the sinks. -/
def select
    (optimizer : Optimizer Number)
    (plan : Plan Number)
    (graph : Graph plan.program)
    (progress : Progress Number) :
    Except (PlanError Number) (PhysicalPlan Number) :=
  let sinkCandidates := plan.sinks.map fun sink =>
    progress.candidates (plan.program.identifier sink)
  match selectSinks optimizer.weights sinkCandidates, plan.sinks with
  | some chosen, _ =>
      (PhysicalPlan.ofCandidates plan.job (graph.order.map plan.program.identifier) chosen).mapError
        .invalidOperator
  | none, first :: _ =>
      let node := plan.program.node first
      .error (.noFeasibleCandidate node.identifier node.name .disagreeingSinks)
  | none, [] => .error .emptyPlan

/-- Plan the part of a program that is in a graph. -/
def searchGraph
    (optimizer : Optimizer Number)
    (plan : Plan Number)
    (graph : Graph plan.program)
    (progress : Progress Number) :
    OptimizerRun Number :=
  let advance := (optimizer.enumeration plan graph).visitAll graph.order progress
  let after : Optimizer Number :=
    { optimizer with nextCandidate := advance.progress.nextCandidate }
  match advance.failure with
  | some failure =>
      { optimizer := after, events := advance.progress.events, outcome := .error failure }
  | none =>
      let outcome := optimizer.select plan graph advance.progress
      let selecting := advance.progress.events ++ [.selectionStarted]
      let events :=
        match outcome with
        | .ok physical =>
            selecting ++
              [.jobFinished plan.job.name (physical.totalCost.weighted optimizer.weights)]
        | .error _ => selecting
      { optimizer := after, events, outcome }

/-- Choose a strategy for every node that the sinks of a plan depend on. -/
def optimize (optimizer : Optimizer Number) (plan : Plan Number) : OptimizerRun Number :=
  let started : List (SearchEvent Number) := [.jobStarted plan.job.name]
  if plan.sinks.isEmpty then
    { optimizer, events := [], outcome := .error .emptyPlan }
  else
    match Graph.ofSinks plan.program plan.sinks with
    | .error fault => { optimizer, events := started, outcome := .error (.invalidOperator fault) }
    | .ok graph =>
        optimizer.searchGraph plan graph
          { nextCandidate := optimizer.nextCandidate
            events := started ++ [.graphCollected graph.size] }

end Optimizer

end Dataflow
