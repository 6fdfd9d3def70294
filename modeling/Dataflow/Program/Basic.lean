import Dataflow.Error
import Dataflow.Program.Node

namespace Dataflow

/-!
# Programs

A program is a table of nodes, each of which reads nodes at earlier positions.  The position of a node
is what makes it this node and no other; a node that several others read is in the table once.
-/

/-- A table of nodes in which every node reads earlier ones. -/
structure Program (Number : Type) where
  nodes : Array (Node Number) := #[]
  fits : ∀ (position : Nat) (inside : position < nodes.size), nodes[position].Fits position := by
    intro position inside
    exact absurd inside (Nat.not_lt_zero position)

namespace Program

variable {Number : Type}

instance : Inhabited (Program Number) := ⟨{}⟩

/-- Number of nodes. -/
def size (program : Program Number) : Nat := program.nodes.size

/-- The position of a node in a program. -/
abbrev Ref (program : Program Number) : Type := Fin program.size

/-- The reference to a position, if there is a node. -/
def ref? (program : Program Number) (position : Nat) : Option program.Ref :=
  if inside : position < program.size then some ⟨position, inside⟩ else none

/-- The node at a position. -/
def node (program : Program Number) (ref : program.Ref) : Node Number :=
  have inside : ref.val < program.nodes.size := ref.isLt
  program.nodes[ref.val]

theorem node_fits (program : Program Number) (ref : program.Ref) :
    (program.node ref).Fits ref.val :=
  program.fits ref.val ref.isLt

/-- The identifier of the node at a position. -/
def identifier (program : Program Number) (ref : program.Ref) : Nat := (program.node ref).identifier

/-- The nodes that a node reads, one for each of its inputs. -/
def inputs (program : Program Number) (ref : program.Ref) : List program.Ref :=
  (program.node ref).inputs.attach.map fun input =>
    ⟨input.val,
      Nat.lt_trans ((program.node_fits ref).inputsEarlier input.val input.property) ref.isLt⟩

theorem lt_of_mem_inputs
    {program : Program Number}
    {ref input : program.Ref}
    (member : input ∈ program.inputs ref) :
    input < ref := by
  obtain ⟨⟨position, isInput⟩, _, same⟩ := List.mem_map.mp member
  subst same
  exact (program.node_fits ref).inputsEarlier position isInput

/-- The program with one more node at its end. -/
def push (program : Program Number) (node : Node Number) (fits : node.Fits program.size) :
    Program Number where
  nodes := program.nodes.push node
  fits := by
    intro position inside
    rw [Array.getElem_push]
    split
    · exact program.fits position _
    · have atEnd : position = program.size := by
        simp only [Array.size_push] at inside
        simp only [size]
        omega
      exact atEnd ▸ fits

@[simp]
theorem size_push
    {program : Program Number}
    {node : Node Number}
    {fits : node.Fits program.size} :
    (program.push node fits).size = program.size + 1 :=
  Array.size_push node

/-- The reference to the node that was pushed last. -/
def pushedRef {program : Program Number} {node : Node Number} (fits : node.Fits program.size) :
    (program.push node fits).Ref :=
  ⟨program.size, by simp⟩

/-- A reference that is still valid after a push. -/
def liftRef
    {program : Program Number}
    {node : Node Number}
    {fits : node.Fits program.size}
    (ref : program.Ref) :
    (program.push node fits).Ref :=
  ⟨ref.val, by simp only [size_push]; exact Nat.lt_succ_of_lt ref.isLt⟩

/--
Add a node that reads nodes of the program.  The node is refused when the number of its inputs is not
the one that its operator takes.
-/
def add?
    (program : Program Number)
    (node : Node Number)
    (inputs : List program.Ref) :
    Except OperatorFault (Program Number) :=
  let wired := { node with inputs := inputs.map Fin.val }
  if counted : wired.inputs.length = wired.operator.arity then
    .ok <| program.push wired
      ⟨counted, fun input member => by
        obtain ⟨ref, _, same⟩ := List.mem_map.mp member
        exact same ▸ ref.isLt⟩
  else
    .error <|
      .inputCount node.name node.operator.kindName node.operator.arity inputs.length

/--
The nodes that a node depends on, and the node itself, put after the nodes that are there already.
Every node comes after all that it reads.
-/
def appendDependencies (program : Program Number) (found : List program.Ref) (ref : program.Ref) :
    List program.Ref :=
  if ref ∈ found then
    found
  else
    let withInputs := (program.inputs ref).attach.foldl
      (fun grown input => program.appendDependencies grown input.val) found
    withInputs ++ [ref]
termination_by ref.val
decreasing_by exact lt_of_mem_inputs input.property

/-- A node and all nodes that it depends on, every node after those that it reads. -/
def dependencies (program : Program Number) (ref : program.Ref) : List program.Ref :=
  program.appendDependencies [] ref

/-- The given nodes and all nodes that they depend on, every node after those that it reads. -/
def dependenciesOf (program : Program Number) (refs : List program.Ref) : List program.Ref :=
  refs.foldl program.appendDependencies []

/-- Whether the two positions hold nodes with the same declarations, apart from identifiers. -/
def sameNode [Arithmetic Number] (program : Program Number) (first second : program.Ref) : Bool :=
  let one := program.node first
  let other := program.node second
  one.name == other.name && one.operator == other.operator &&
    one.parallelism == other.parallelism && one.hints == other.hints &&
    one.restrictions == other.restrictions &&
    (program.inputs first).length == (program.inputs second).length &&
    ((program.inputs first).attach.zip (program.inputs second)).all fun pair =>
      program.sameNode pair.1.val pair.2
termination_by first.val
decreasing_by exact lt_of_mem_inputs pair.1.property

end Program

end Dataflow
