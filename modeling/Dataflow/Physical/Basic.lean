import Dataflow.Candidate.Basic
import Dataflow.Error
import Dataflow.Program.Plan

namespace Dataflow

/-!
# Physical plans

A physical plan tells for every node of a program by which driver it is executed and through which
channels its inputs arrive.
-/

/-- A channel of a physical plan, which names its source by node identifier. -/
structure PhysicalChannel (Number : Type) where
  source : Nat
  ship : ShipStrategy
  preparation : LocalStrategy
  replication : Nat
  cost : Cost Number
  deriving Repr

/-- A node together with the strategy chosen to execute it. -/
structure PhysicalNode (Number : Type) where
  identifier : Nat
  name : String
  /-- The kind of operator. -/
  operator : String
  driver : Driver
  parallelism : Nat
  globally : GlobalProperties
  locally : LocalProperties
  statistics : Statistics Number
  nodeCost : Cost Number
  cumulativeCost : Cost Number
  inputs : List (PhysicalChannel Number)
  deriving Repr

namespace PhysicalNode

variable {Number : Type}

/-- The strategy that a candidate stands for. -/
def ofCandidate (candidate : Candidate Number) : PhysicalNode Number where
  identifier := candidate.node.identifier
  name := candidate.node.name
  operator := candidate.node.operator.kindName
  driver := candidate.driver
  parallelism := candidate.parallelism
  globally := candidate.globally
  locally := candidate.locally
  statistics := candidate.statistics
  nodeCost := candidate.nodeCost
  cumulativeCost := candidate.cumulativeCost
  inputs := candidate.inputs.map fun channel =>
    { source := channel.source.node.identifier
      ship := channel.ship
      preparation := channel.preparation
      replication := channel.replication
      cost := channel.cost }

end PhysicalNode

/-- The strategies chosen for the nodes of a program, each after those of its inputs. -/
structure PhysicalPlan (Number : Type) where
  job : Job
  nodes : List (PhysicalNode Number)
  /-- Identifiers of the sinks. -/
  sinks : List Nat
  deriving Repr

namespace Candidate

variable {Number : Type}

/--
Collect a candidate and all that it is built on, the last input first.  A node that is executed by two
different candidates is refused.
-/
def collect (chosen : List (Candidate Number)) (candidate : Candidate Number) :
    Except OperatorFault (List (Candidate Number)) :=
  match chosen.find? fun other => other.node.identifier == candidate.node.identifier with
  | some known =>
      if known.identifier = candidate.identifier then
        .ok chosen
      else
        .error <| .executedTwice candidate.node.name known.identifier candidate.identifier
  | none =>
      candidate.inputs.reverse.attach.foldlM
        (fun grown channel => collect grown channel.val.source) (chosen ++ [candidate])
termination_by sizeOf candidate
decreasing_by exact sizeOf_source_lt (List.mem_reverse.mp channel.property)

end Candidate

namespace PhysicalPlan

variable {Number : Type}

/--
The plan of all candidates that the chosen sink candidates are built on, with nodes in the given order
of their identifiers.
-/
def ofCandidates (job : Job) (order : List Nat) (sinks : List (Candidate Number)) :
    Except OperatorFault (PhysicalPlan Number) := do
  let chosen ← sinks.reverse.foldlM Candidate.collect []
  let candidates := order.filterMap fun identifier =>
    chosen.find? fun candidate => candidate.node.identifier == identifier
  return {
    job
    nodes := candidates.map PhysicalNode.ofCandidate
    sinks := sinks.map fun candidate => candidate.node.identifier }

/-- The node with an identifier. -/
def find? (plan : PhysicalPlan Number) (identifier : Nat) : Option (PhysicalNode Number) :=
  plan.nodes.find? fun node => node.identifier == identifier

/-- The cumulative costs of all sinks, added up. -/
def totalCost [Arithmetic Number] (plan : PhysicalPlan Number) : Cost Number :=
  (plan.sinks.filterMap plan.find?).foldl (fun total node => total + node.cumulativeCost) .zero

end PhysicalPlan

end Dataflow
