import Dataflow.Program.Basic

namespace Dataflow

/-!
# Building programs

A builder adds one node after another, each reading the one before.  The node added last can still be
changed until another node reads it.  The first failure is kept until a node is asked for; after that
the builder goes on as if nothing had failed.
-/

/-- The node that the next one will read. -/
inductive Root {Number : Type} (program : Program Number) where
  /-- Added last, and not in the program yet. -/
  | pending (node : Node Number) (fits : node.Fits program.size)
  /-- In the program. -/
  | built (ref : program.Ref)

/-- A program under construction. -/
structure Builder (Number : Type) where
  program : Program Number := {}
  root : Option (Root program) := none
  /-- The identifier of the next node. -/
  nextIdentifier : Nat := 0
  /-- The first failure since a node was asked for last. -/
  fault : Option OperatorFault := none

namespace Root

variable {Number : Type} {program : Program Number}

/-- A program, and a node of it. -/
structure Settled (Number : Type) where
  program : Program Number
  ref : program.Ref

/-- The program that holds the root for good. -/
def settle : Root program → Settled Number
  | .pending node fits => ⟨program.push node fits, Program.pushedRef fits⟩
  | .built ref => ⟨program, ref⟩

/-- Settling a root keeps all nodes at their positions. -/
theorem size_le_size_settle (root : Root program) : program.size ≤ root.settle.program.size := by
  cases root <;> simp [settle]

/-- The root with declarations changed, if they can still be. -/
def declare
    (change : Node Number → Node Number)
    (keepsWiring : ∀ node position, node.Fits position → (change node).Fits position) :
    Root program → Root program
  | .pending node fits => .pending (change node) (keepsWiring node _ fits)
  | .built ref => .built ref

end Root

namespace Builder

variable {Number : Type}

/-- Keep a failure unless there is an earlier one. -/
def fail (builder : Builder Number) (fault : OperatorFault) : Builder Number :=
  { builder with fault := builder.fault.or (some fault) }

/-- Start again from a source. -/
def source (builder : Builder Number) (name : String) (declared : Source Number) : Builder Number :=
  let node : Node Number :=
    { identifier := builder.nextIdentifier, name, operator := .source declared }
  { builder with
    root := some (.pending node ⟨rfl, by simp [node]⟩)
    nextIdentifier := builder.nextIdentifier + 1 }

/-- Go on from a node of the program, for instance to read it a second time. -/
def startFrom (builder : Builder Number) (ref : builder.program.Ref) : Builder Number :=
  { builder with root := some (.built ref) }

/-- Add a node that reads the current one first, and then other nodes of the program. -/
def append
    (builder : Builder Number)
    (name : String)
    (operator : Operator Number)
    (others : List builder.program.Ref)
    (counted : others.length + 1 = operator.arity) :
    Builder Number :=
  match builder.root with
  | none => builder.fail (.missingInput name)
  | some root =>
      let settled := root.settle
      let node : Node Number :=
        { identifier := builder.nextIdentifier
          name
          operator
          inputs := settled.ref.val :: others.map Fin.val }
      { program := settled.program
        root := some <| .pending node
          ⟨by simp [node, ← counted],
            fun input member => by
              rcases List.mem_cons.mp member with isRoot | isOther
              · exact isRoot ▸ settled.ref.isLt
              · obtain ⟨ref, _, same⟩ := List.mem_map.mp isOther
                exact same ▸ Nat.lt_of_lt_of_le ref.isLt root.size_le_size_settle⟩
        nextIdentifier := builder.nextIdentifier + 1
        fault := builder.fault }

/-- Add a map. -/
def map (builder : Builder Number) (name : String) (preserved : Option FieldSet) : Builder Number :=
  builder.append name (.map preserved) [] rfl

/-- Add a reduction. -/
def reduce
    (builder : Builder Number)
    (name : String)
    (keys : FieldSet)
    (combinable : Bool)
    (preserved : Option FieldSet) :
    Builder Number :=
  builder.append name (.reduce keys combinable preserved) [] rfl

/-- Add a join of the current node with another one. -/
def join
    (builder : Builder Number)
    (name : String)
    (keys : JoinKeys)
    (preserved : InputSlots FieldSet)
    (right : builder.program.Ref) :
    Builder Number :=
  builder.append name (.join keys preserved) [right] rfl

/-- Add a cartesian product of the current node with another one. -/
def cross
    (builder : Builder Number)
    (name : String)
    (preserved : InputSlots FieldSet)
    (right : builder.program.Ref) :
    Builder Number :=
  builder.append name (.cross preserved) [right] rfl

/-- Add a sink. -/
def sink (builder : Builder Number) (name : String) : Builder Number :=
  builder.append name .sink [] rfl

/-- Declare the number of partitions of the node added last. -/
def parallelism (builder : Builder Number) (count : Nat) : Builder Number :=
  { builder with
    root := builder.root.map <| Root.declare
      (fun node => { node with parallelism := some count })
      (fun _ _ fits => ⟨fits.inputCount, fits.inputsEarlier⟩) }

/-- Declare the hints of the node added last. -/
def hints (builder : Builder Number) (hints : Hints Number) : Builder Number :=
  { builder with
    root := builder.root.map <| Root.declare
      (fun node => { node with hints })
      (fun _ _ fits => ⟨fits.inputCount, fits.inputsEarlier⟩) }

/-- Declare the restrictions of the node added last. -/
def restrict (builder : Builder Number) (restrictions : Restrictions) : Builder Number :=
  { builder with
    root := builder.root.map <| Root.declare
      (fun node => { node with restrictions })
      (fun _ _ fits => ⟨fits.inputCount, fits.inputsEarlier⟩) }

/-- A builder after a node was asked for, and the node or the reason why there is none. -/
structure Built (Number : Type) where
  builder : Builder Number
  outcome : Except (PlanError Number) builder.program.Ref

/-- Ask for the current node.  Afterwards there is no current node and no failure. -/
def build (builder : Builder Number) : Built Number :=
  match builder.fault, builder.root with
  | some fault, _ =>
      ⟨{ builder with root := none, fault := none }, .error (.invalidOperator fault)⟩
  | none, some root =>
      ⟨{ builder with program := root.settle.program, root := none }, .ok root.settle.ref⟩
  | none, none => ⟨{ builder with root := none }, .error .emptyPlan⟩

end Builder

end Dataflow
