import Dataflow.Candidate.BranchPlan
import Dataflow.Cost.Basic
import Dataflow.Program.Node
import Dataflow.Statistics
import Dataflow.Strategy.Ship

namespace Dataflow

/-!
# Candidates

A candidate is one way to execute a node, together with the channels that bring its inputs into the
shape that its driver needs.  The candidates at the other ends of the channels are part of it, so that
a candidate is a physical plan for its node and all the nodes that it depends on.
-/

/-- A way to bring the output of a candidate to a consumer. -/
structure Channel (Number Source : Type) where
  source : Source
  ship : ShipStrategy
  preparation : LocalStrategy
  /-- The global properties after shipping. -/
  globally : GlobalProperties
  /-- The local properties after shipping and preparation. -/
  locally : LocalProperties
  /-- The number of copies of each record that the consumer receives. -/
  replication : Nat
  cost : Cost Number
  deriving Repr

/-- One way to execute a node and all the nodes that it depends on. -/
structure Candidate (Number : Type) where
  identifier : Nat
  node : Node Number
  driver : Driver
  inputs : List (Channel Number (Candidate Number))
  globally : GlobalProperties
  locally : LocalProperties
  parallelism : Nat
  statistics : Statistics Number
  /-- The cost of the driver alone. -/
  nodeCost : Cost Number
  /--
  The cost of the node and of all that it depends on, added up along every path, so that what several
  inputs share is counted for each of them.
  -/
  cumulativeCost : Cost Number
  branchPlan : BranchPlan

namespace Candidate

variable {Number : Type}

/-- The candidate at the other end of a channel is smaller than the one that has the channel. -/
theorem sizeOf_source_lt
    {candidate : Candidate Number}
    {channel : Channel Number (Candidate Number)}
    (member : channel ∈ candidate.inputs) :
    sizeOf channel.source < sizeOf candidate := by
  have inList := List.sizeOf_lt_of_mem member
  have inChannel : sizeOf channel.source < sizeOf channel := by
    cases channel
    simp +arith
  cases candidate
  simp at inList ⊢
  omega

/-- The cost of a driver together with the cost of its inputs and of the channels that bring them. -/
def accumulate
    [Arithmetic Number]
    (nodeCost : Cost Number)
    (inputs : List (Channel Number (Candidate Number))) :
    Cost Number :=
  inputs.foldl (fun total channel => total + channel.cost + channel.source.cumulativeCost) nodeCost

/-- The cost by which candidates are compared. -/
def weightedCost [Arithmetic Number] (weights : Weights Number) (candidate : Candidate Number) :
    Number :=
  candidate.cumulativeCost.weighted weights

/-- The candidate with itself as the choice for its own node, which is branching. -/
def openBranch (candidate : Candidate Number) : Candidate Number :=
  { candidate with
    branchPlan := candidate.branchPlan.insert candidate.node.identifier candidate.identifier }

end Candidate

end Dataflow
