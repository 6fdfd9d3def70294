import Dataflow.Proofs.Search.BranchPlans
import Dataflow.Proofs.WholeNumber
import Dataflow.Search.Optimizer

namespace Dataflow.Optimizer

/-!
# Tracking of shared nodes

The optimizer compares candidates for use together by their branch plans alone.  These tell exactly whether
the candidates execute every shared node in the same way, whatever the shape of the graph.
-/

variable {Number : Type} [Arithmetic Number]
variable {optimizer : Optimizer Number} {plan : Plan Number} {graph : Graph plan.program}

/-- The optimizer starts at a stage, because it only drops candidates. -/
theorem stage_start
    (accepted : Graph.ofSinks plan.program plan.sinks = .ok graph)
    (start : Progress Number) :
    (optimizer.enumeration plan graph).Stage [] start :=
  .start (Graph.wellFormed_of_ofSinks accepted)
    (fun _ _ isKept => (Candidate.mem_prune.mp isKept).1) start

theorem stage_of_visitAll
    (accepted : Graph.ofSinks plan.program plan.sinks = .ok graph)
    {done rest : List plan.program.Ref}
    (order_eq : graph.order = done ++ rest)
    {start : Progress Number}
    (succeeded : ((optimizer.enumeration plan graph).visitAll done start).failure = none) :
    (optimizer.enumeration plan graph).Stage done
      ((optimizer.enumeration plan graph).visitAll done start).progress := by
  exact (stage_start accepted start).visitAll ⟨rest, order_eq.symm⟩ succeeded

/--
At every node that the optimizer comes to, the branch plans of surviving candidates of its inputs can be
merged if and only if the candidates that these rest on execute no node in two ways.  So every candidate
that is produced there executes each node that it depends on in exactly one way.
-/
theorem branchPlans_track_choices
    (accepted : Graph.ofSinks plan.program plan.sinks = .ok graph)
    {done rest : List plan.program.Ref}
    {ref : plan.program.Ref}
    (order_eq : graph.order = done ++ ref :: rest)
    {start : Progress Number}
    (succeeded : ((optimizer.enumeration plan graph).visitAll done start).failure = none) :
    (∀ chosen ∈
        combinations ((optimizer.enumeration plan graph).scope
          ((optimizer.enumeration plan graph).visitAll done start).progress ref).inputs,
      (BranchPlan.merge? (chosen.map Candidate.branchPlan)).isSome = true ↔
        Candidate.Coherent chosen) ∧
      ∀ number, ∀ candidate ∈
        (optimizer.enumeration plan graph).produced
          ((optimizer.enumeration plan graph).visitAll done start).progress ref number,
        ∀ other, plan.program.DependsOn ref other →
          ∃ choice, candidate.Chooses (plan.program.identifier other) choice ∧
            ∀ another, candidate.Chooses (plan.program.identifier other) another → another = choice := by
  have stage := stage_of_visitAll accepted order_eq succeeded
  have isThere : ref ∈ graph.order := by simp [order_eq]
  have inputsDone := stage.wellFormed.inputsFirst.inputsBefore order_eq
  constructor
  · intro chosen isChoice
    exact stage.isSome_merge?_iff_coherent (stage.wellFormed.inputs_separated isThere) inputsDone isChoice
  · intro number candidate isProduced other depends
    exact stage.exists_unique_choice_of_produced isThere inputsDone
      (Enumeration.produced_of_mem isProduced) depends

/-- Two maps of one source that are joined again above it. -/
def diamond : Plan WholeNumber where
  program :=
    { nodes := #[
        { identifier := 0, name := "source", operator := .source {} },
        { identifier := 1, name := "left", operator := .map none, inputs := [0] },
        { identifier := 2, name := "right", operator := .map none, inputs := [0] },
        { identifier := 3, name := "join", operator := .cross {}, inputs := [1, 2] },
        { identifier := 4, name := "sink", operator := .sink, inputs := [3] }]
      fits := by
        intro position inside
        match position, inside with
        | 0, _ => exact ⟨rfl, by simp⟩
        | 1, _ => exact ⟨rfl, by simp⟩
        | 2, _ => exact ⟨rfl, by simp⟩
        | 3, _ => exact ⟨rfl, by simp⟩
        | 4, _ => exact ⟨rfl, by simp⟩ }
  job := { name := "job" }
  sinks := [⟨4, by decide⟩]

/-- Branch plans tell which candidates of the two maps rest on the same candidate of the source. -/
theorem branchPlans_track_choices_diamond :
    Graph.ofSinks diamond.program diamond.sinks = .ok ⟨List.finRange 5⟩ ∧
      ∀ chosen ∈
          combinations ((Optimizer.default.enumeration diamond ⟨List.finRange 5⟩).scope
            ((Optimizer.default.enumeration diamond ⟨List.finRange 5⟩).visitAll
              [⟨0, by decide⟩, ⟨1, by decide⟩, ⟨2, by decide⟩] { nextCandidate := 0 }).progress
            ⟨3, by decide⟩).inputs,
        (BranchPlan.merge? (chosen.map Candidate.branchPlan)).isSome = true ↔ Candidate.Coherent chosen := by
  have accepted : Graph.ofSinks diamond.program diamond.sinks = .ok ⟨List.finRange 5⟩ :=
    Graph.ofSinks_eq_ok_iff_apart.mpr ⟨by decide +kernel, by decide +kernel⟩
  exact ⟨accepted, (branchPlans_track_choices accepted (by rfl) (by decide +kernel)).1⟩

end Dataflow.Optimizer
