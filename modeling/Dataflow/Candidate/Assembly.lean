import Dataflow.Candidate.Basic
import Dataflow.Cost.Model

namespace Dataflow

/-!
# Assemblies

A driver on top of chosen channels becomes a candidate.  What the channels deliver is restricted to the
fields that the operator copies unchanged before the properties of the output are derived from it.
-/

/-- What all candidates of a node have in common. -/
structure NodeContext (Number : Type) where
  node : Node Number
  parallelism : Nat
  statistics : Statistics Number

namespace NodeContext

variable {Number : Type}

/-- The fields of an input of which properties may survive in the output. -/
def retained (context : NodeContext Number) (input : Nat) : FieldSet :=
  (context.node.operator.preserved? input).getD .empty

/-- The global properties that a driver derives, from those that its channels deliver. -/
def derivedGlobal
    (context : NodeContext Number)
    (driver : Driver)
    (delivered : List GlobalProperties) :
    GlobalProperties :=
  match context.node.operator with
  | .source declared => driver.outputGlobal [declared.globally]
  | .sink => driver.outputGlobal delivered
  | _ =>
      driver.outputGlobal <|
        delivered.mapIdx fun input properties => properties.retain (context.retained input)

/--
The local properties that a driver derives, from those that its channels deliver.  Orders and groupings
that the driver establishes itself are on keys of the first input.
-/
def derivedLocal
    (context : NodeContext Number)
    (driver : Driver)
    (delivered : List LocalProperties) :
    LocalProperties :=
  match context.node.operator with
  | .source declared => driver.outputLocal [declared.locally]
  | .sink => driver.outputLocal delivered
  | _ =>
      (driver.outputLocal <|
        delivered.mapIdx fun input properties => properties.retain (context.retained input)).retain
          (context.retained 0)

/-- The global properties of a candidate, with the unique fields that its hints declare. -/
def outputGlobal
    (context : NodeContext Number)
    (driver : Driver)
    (delivered : List GlobalProperties) :
    GlobalProperties :=
  context.node.hints.uniqueSets.toList.foldl (fun properties fields => properties.addUnique fields)
    (context.derivedGlobal driver delivered)

/-- The local properties of a candidate, with the unique fields that its hints declare. -/
def outputLocal
    (context : NodeContext Number)
    (driver : Driver)
    (delivered : List LocalProperties) :
    LocalProperties :=
  context.node.hints.uniqueSets.toList.foldl (fun properties fields => properties.addUnique fields)
    (context.derivedLocal driver delivered)

/-- The sizes that the cost of a driver depends on; a source reads its own output. -/
def drivenSizes
    (context : NodeContext Number)
    (inputs : List (Channel Number (Candidate Number))) :
    List (Statistics Number) :=
  match context.node.operator with
  | .source _ => [context.statistics]
  | _ => inputs.map fun channel => channel.source.statistics

end NodeContext

/-- A driver with the channels it reads and the choices they rest on: all that defines a candidate. -/
structure Assembly (Number : Type) where
  driver : Driver
  inputs : List (Channel Number (Candidate Number))
  branchPlan : BranchPlan := .empty

namespace Assembly

variable {Number : Type} [Arithmetic Number]

/-- The candidate for a node. -/
def instantiate
    (assembly : Assembly Number)
    (context : NodeContext Number)
    (model : CostModel Number)
    (identifier : Nat) :
    Candidate Number :=
  let nodeCost := model.driverCost assembly.driver (context.drivenSizes assembly.inputs)
  { identifier
    node := context.node
    driver := assembly.driver
    inputs := assembly.inputs
    globally := context.outputGlobal assembly.driver (assembly.inputs.map Channel.globally)
    locally := context.outputLocal assembly.driver (assembly.inputs.map Channel.locally)
    parallelism := context.parallelism
    statistics := context.statistics
    nodeCost
    cumulativeCost := Candidate.accumulate nodeCost assembly.inputs
    branchPlan := assembly.branchPlan }

end Assembly

end Dataflow
