import Dataflow.Program.Plan
import Dataflow.Proofs.Program.Dependencies
import Dataflow.Proofs.Sizes.Refinement

namespace Dataflow

/-!
# Sizes along a program

The sizes of sources are all that an author may not know of a program when it is planned.  When more of them become
known, every node of the program is estimated as before, as far as it could be estimated at all.
-/

/-- The source with the sizes that it does not declare, as far as these are known now. -/
def Source.inform {Number : Type} (source : Source Number) (more : Statistics Number) : Source Number :=
  { source with
    records := source.records.orElse more.records
    bytes := source.bytes.orElse more.bytes }

/-- The operator with more sizes, if it is a source. -/
def Operator.inform {Number : Type} (operator : Operator Number) (more : Statistics Number) : Operator Number :=
  match operator with
  | .source declared => .source (declared.inform more)
  | other => other

@[simp]
theorem Operator.arity_inform
    {Number : Type}
    (operator : Operator Number)
    (more : Statistics Number) :
    (operator.inform more).arity = operator.arity := by
  cases operator <;> rfl

/-- The node with more sizes, if it is a source. -/
def Node.inform {Number : Type} (node : Node Number) (more : Statistics Number) : Node Number :=
  { node with operator := node.operator.inform more }

theorem Node.Fits.inform
    {Number : Type}
    {node : Node Number}
    {position : Nat}
    (fits : node.Fits position)
    (more : Statistics Number) :
    (node.inform more).Fits position where
  inputCount := fits.inputCount.trans (Operator.arity_inform node.operator more).symm
  inputsEarlier := fits.inputsEarlier

namespace Program

variable {Number : Type}

/-- The program with sizes, by position, for the sources that do not declare them. -/
def inform (program : Program Number) (more : Nat → Statistics Number) : Program Number where
  nodes := program.nodes.mapIdx fun position node => node.inform (more position)
  fits := by
    intro position inside
    rw [Array.getElem_mapIdx]
    exact (program.fits position _).inform (more position)

variable {program : Program Number} {more : Nat → Statistics Number} {ref other : program.Ref}

@[simp]
theorem size_inform : (program.inform more).size = program.size :=
  Array.size_mapIdx

/-- The node at the same position of the program in which more sizes are known. -/
def informedRef (program : Program Number) (more : Nat → Statistics Number) (ref : program.Ref) :
    (program.inform more).Ref :=
  ref.cast size_inform.symm

theorem informedRef_injective
    (same : program.informedRef more ref = program.informedRef more other) :
    ref = other := by
  have samePosition : (program.informedRef more ref).val = (program.informedRef more other).val :=
    congrArg Fin.val same
  exact Fin.ext samePosition

theorem node_inform :
    (program.inform more).node (program.informedRef more ref) = (program.node ref).inform (more ref) := by
  exact Array.getElem_mapIdx _

theorem identifier_inform :
    (program.inform more).identifier (program.informedRef more ref) = program.identifier ref := by
  rw [identifier, node_inform]
  rfl

theorem inputs_inform :
    (program.inform more).inputs (program.informedRef more ref) =
      (program.inputs ref).map (program.informedRef more) := by
  apply List.map_injective_iff.mpr (fun _ _ => Fin.ext)
  rw [map_val_inputs, List.map_map, node_inform]
  exact (map_val_inputs program ref).symm

theorem DependsOn.inform
    (depends : program.DependsOn ref other)
    (more : Nat → Statistics Number) :
    (program.inform more).DependsOn (program.informedRef more ref) (program.informedRef more other) := by
  induction depends with
  | self ref => exact .self _
  | reads isInput _ inductionHypothesis =>
      refine .reads ?_ inductionHypothesis
      rw [inputs_inform]
      exact List.mem_map_of_mem isInput

variable [Arithmetic Number]

/-- The sizes of what a node gives out, as they follow from those of all that it depends on. -/
def estimated (program : Program Number) (ref : program.Ref) : Statistics Number :=
  let node := program.node ref
  .estimate node.operator node.hints <|
    (program.inputs ref).attach.map fun input => program.estimated input.val
termination_by ref.val
decreasing_by exact lt_of_mem_inputs input.property

/-- The recursion without the proofs that it ends. -/
theorem estimated_eq (program : Program Number) (ref : program.Ref) :
    program.estimated ref =
      .estimate (program.node ref).operator (program.node ref).hints
        ((program.inputs ref).map program.estimated) := by
  rw [estimated]
  rw [List.attach_map_val (f := program.estimated)]

/-- The output of an informed node is estimated as that of the node, with more sizes of its source. -/
theorem estimate_inform
    (operator : Operator Number)
    (hints : Hints Number)
    (more : Statistics Number)
    (inputs : List (Statistics Number)) :
    (Statistics.estimate operator hints inputs).RefinedBy
      (Statistics.estimate (operator.inform more) hints inputs) := by
  cases operator with
  | source declared => exact ⟨Estimate.refinedBy_orElse _ _, Estimate.refinedBy_orElse _ _⟩
  | _ => exact .refl _

/-- Whatever becomes known of the sources, no size that was known of any node changes. -/
theorem estimated_refinedBy
    (program : Program Number)
    (more : Nat → Statistics Number)
    (ref : program.Ref) :
    (program.estimated ref).RefinedBy ((program.inform more).estimated (program.informedRef more ref)) := by
  induction position : ref.val using Nat.strongRecOn generalizing ref with
  | _ position inductionHypothesis =>
      subst position
      have inputsRefined : Statistics.AllRefinedBy ((program.inputs ref).map program.estimated)
          (((program.inform more).inputs (program.informedRef more ref)).map (program.inform more).estimated) := by
        rw [inputs_inform, List.map_map, Statistics.AllRefinedBy, List.forall₂_map_left_iff,
          List.forall₂_map_right_iff, List.forall₂_same]
        exact fun input isInput => inductionHypothesis input.val (lt_of_mem_inputs isInput) input rfl
      rw [estimated_eq, estimated_eq, node_inform]
      exact (Statistics.estimate_refinedBy _ _ inputsRefined).trans (estimate_inform _ _ _ _)

end Program

namespace Plan

variable {Number : Type}

/-- The plan of the same job in which more sizes of sources are known. -/
def inform (plan : Plan Number) (more : Nat → Statistics Number) : Plan Number where
  program := plan.program.inform more
  job := plan.job
  sinks := plan.sinks.map (plan.program.informedRef more)
  distinct := List.Pairwise.map _
    (fun _ _ different same => different (Program.informedRef_injective same)) plan.distinct

end Plan

end Dataflow
