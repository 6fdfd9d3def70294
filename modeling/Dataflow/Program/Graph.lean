import Dataflow.Program.Basic

namespace Dataflow

/-!
# The graph of a program

The part of a program that its sinks depend on, with the relations between producers and consumers in
it.  Within a graph, nodes are told apart by their identifiers.
-/

namespace Program

variable {Number : Type}

/--
Visit a node and all nodes that it depends on, inputs in order, each node before its inputs.  Two different
nodes with the same identifier are refused.
-/
def visit
    (program : Program Number)
    (visited : List program.Ref)
    (ref : program.Ref) :
    Except OperatorFault (List program.Ref) :=
  match visited.find? fun other => program.identifier other == program.identifier ref with
  | some known =>
      if known = ref then
        .ok visited
      else
        .error <| .sharedIdentifier (program.identifier ref)
          (program.node known).name (program.node ref).name
  | none =>
      (program.inputs ref).attach.foldlM
        (fun grown input => program.visit grown input.val) (visited ++ [ref])
termination_by ref.val
decreasing_by exact lt_of_mem_inputs input.property

end Program

/-- The nodes that the sinks of a program depend on, every node after those that it reads. -/
structure Graph {Number : Type} (program : Program Number) where
  order : List program.Ref
  deriving Repr, DecidableEq

namespace Graph

variable {Number : Type} {program : Program Number}

/-- The graph above the given sinks, provided that identifiers tell its nodes apart. -/
def ofSinks (program : Program Number) (sinks : List program.Ref) :
    Except OperatorFault (Graph program) := do
  discard <| sinks.foldlM program.visit []
  return ⟨program.dependenciesOf sinks⟩

/-- Number of nodes. -/
def size (graph : Graph program) : Nat := graph.order.length

/-- The node with an identifier. -/
def find? (graph : Graph program) (identifier : Nat) : Option program.Ref :=
  graph.order.find? fun ref => program.identifier ref == identifier

/-- Whether a node of the graph has the identifier. -/
def contains (graph : Graph program) (identifier : Nat) : Bool := (graph.find? identifier).isSome

/-- The nodes that read a node, one occurrence for every input that does. -/
def consumers (graph : Graph program) (ref : program.Ref) : List program.Ref :=
  graph.order.flatMap fun consumer =>
    ((program.inputs consumer).filter fun input => decide (input = ref)).map fun _ => consumer

/-- The number of inputs that read a node. -/
def consumerCount (graph : Graph program) (identifier : Nat) : Nat :=
  match graph.find? identifier with
  | some ref => (graph.consumers ref).length
  | none => 0

/-- A branching node is read by several inputs. -/
def isBranching (graph : Graph program) (identifier : Nat) : Bool :=
  decide (1 < graph.consumerCount identifier)

/-- Every consumer of a node is among the given nodes. -/
def consumedWithin (graph : Graph program) (nodes : List program.Ref) (branch : Nat) : Bool :=
  (graph.find? branch).any fun ref => (graph.consumers ref).all nodes.contains

/--
Every consumer of a branching node is another node or one that it depends on.  A candidate of the other
node then fixes how the branching node is executed, and later nodes need not agree on it any more.
-/
def closesBranch (graph : Graph program) (branch node : Nat) : Bool :=
  (graph.find? node).any fun ref => graph.consumedWithin (program.dependencies ref) branch

end Graph

end Dataflow
