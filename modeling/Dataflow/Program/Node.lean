import Dataflow.Hints
import Dataflow.Program.Operator

namespace Dataflow

/-!
# Nodes of a program

A node is an operator together with the nodes whose output it reads and with what its author declares
about it.  It names its inputs by their positions in the program that holds it.
-/

/-- One operator of a program and its declarations. -/
structure Node (Number : Type) where
  identifier : Nat
  name : String
  operator : Operator Number
  /-- Positions of the nodes that are read, one for each input of the operator. -/
  inputs : List Nat := []
  /-- The number of partitions; the default of the job when nothing is declared. -/
  parallelism : Option Nat := none
  hints : Hints Number := {}
  restrictions : Restrictions := {}
  deriving Repr

namespace Node

variable {Number : Type}

/-- A node fits at a position when it has the inputs of its operator, all at earlier positions. -/
structure Fits (node : Node Number) (position : Nat) : Prop where
  inputCount : node.inputs.length = node.operator.arity
  inputsEarlier : ∀ input ∈ node.inputs, input < position

/-- A node that fits at a position fits at every later one. -/
theorem Fits.mono
    {node : Node Number}
    {position later : Nat}
    (fits : node.Fits position)
    (notEarlier : position ≤ later) :
    node.Fits later :=
  ⟨fits.inputCount, fun input member => Nat.lt_of_lt_of_le (fits.inputsEarlier input member) notEarlier⟩

end Node

end Dataflow
