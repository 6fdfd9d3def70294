import Dataflow.Physical.Basic

namespace Dataflow

/-!
# Explanations of physical plans

One tree for each sink, in which every node shows its driver and the channel through which its consumer
reads it.
-/

namespace PhysicalNode

/-- The node with its driver and its number of partitions. -/
def describe (node : PhysicalNode Float) : String :=
  node.name ++ ": " ++ node.driver.render ++ " p=" ++ toString node.parallelism

end PhysicalNode

namespace PhysicalChannel

/-- How a channel ships and prepares records. -/
def describe (channel : PhysicalChannel Float) : String :=
  "[" ++ channel.ship.render ++ " " ++ channel.preparation.render ++ "] "

end PhysicalChannel

/-- The nodes with other identifiers. -/
def nodesExcept (identifier : Nat) (nodes : List (PhysicalNode Float)) : List (PhysicalNode Float) :=
  nodes.filter fun node => node.identifier != identifier

/-- Leaving out an identifier that occurs leaves fewer nodes. -/
theorem length_nodesExcept_lt
    {identifier : Nat}
    {nodes : List (PhysicalNode Float)}
    {node : PhysicalNode Float}
    (found : nodes.find? (fun node => node.identifier == identifier) = some node) :
    (nodesExcept identifier nodes).length < nodes.length := by
  have member := List.mem_of_find?_eq_some found
  have holds := List.find?_some found
  exact List.length_filter_lt_length_iff_exists.mpr ⟨node, member, by simpa using holds⟩

/--
The tree above the node with an identifier, if it is among the given nodes.  No node depends on
itself, so a node is left out of the nodes that its own inputs are looked up in.
-/
def explainNode (nodes : List (PhysicalNode Float)) (lead : String) (identifier : Nat) :
    Option Text.Tree :=
  match _known : nodes.find? fun node => node.identifier == identifier with
  | none => none
  | some node =>
      some <| .node (lead ++ node.describe) <|
        node.inputs.filterMap fun channel =>
          explainNode (nodesExcept identifier nodes) channel.describe channel.source
termination_by nodes.length
decreasing_by exact length_nodesExcept_lt _known

namespace PhysicalPlan

/-- One tree for each sink, in which shared nodes are repeated. -/
def explain (plan : PhysicalPlan Float) : String :=
  String.join <| (plan.sinks.filterMap (explainNode plan.nodes "")).map Text.Tree.render

end PhysicalPlan

end Dataflow
