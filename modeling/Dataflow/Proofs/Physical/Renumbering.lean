import Dataflow.Proofs.Candidate.Renumbering
import Dataflow.Proofs.Physical.Collection

namespace Dataflow

/-!
# Physical plans of renumbered candidates

A physical plan names its nodes, not the candidates that it was made from.  Candidates with greater identifiers
give the same plan, or the same fault with greater identifiers in it.
-/

/-- The fault with greater identifiers of the candidates in it. -/
def OperatorFault.shift (amount : Nat) : OperatorFault → OperatorFault
  | .executedTwice node first second => .executedTwice node (first + amount) (second + amount)
  | fault => fault

namespace Candidate

variable {Number : Type} {renumbering : Renumbering} {candidate : Candidate Number}

@[simp]
theorem node_renumber : (candidate.renumber renumbering).node = candidate.node := by
  rw [renumber_eq]

theorem sources_renumber :
    (candidate.renumber renumbering).inputs.map Channel.source =
      (candidate.inputs.map Channel.source).map (renumber renumbering) := by
  rw [renumber_eq]
  simp [Channel.renumber]

theorem ofCandidate_renumber :
    PhysicalNode.ofCandidate (candidate.renumber renumbering) = PhysicalNode.ofCandidate candidate := by
  have sameChannel : ∀ channel : Channel Number (Candidate Number),
      (channel.renumber renumbering).source.node.identifier = channel.source.node.identifier :=
    fun channel => congrArg Node.identifier node_renumber
  rw [renumber_eq]
  simp only [PhysicalNode.ofCandidate, List.map_map, Function.comp_def, sameChannel]
  rfl

theorem find?_renumber
    {candidates : List (Candidate Number)}
    {identifier : Nat} :
    (candidates.map (renumber renumbering)).find? (fun candidate => candidate.node.identifier == identifier) =
      (candidates.find? fun candidate => candidate.node.identifier == identifier).map
        (renumber renumbering) := by
  rw [List.find?_map]
  simp only [Function.comp_def, node_renumber]

/-- What is collected from candidates with greater identifiers, which are also those in a fault. -/
def shiftCollected
    (amount : Nat)
    (collected : Except OperatorFault (List (Candidate Number))) :
    Except OperatorFault (List (Candidate Number)) :=
  (collected.map (List.map (renumber (.shift amount)))).mapError (OperatorFault.shift amount)

variable {amount : Nat}

theorem foldlM_collect_shift
    {candidates : List (Candidate Number)}
    (each : ∀ candidate ∈ candidates, ∀ chosen,
      collect (chosen.map (renumber (.shift amount))) (candidate.renumber (.shift amount)) =
        shiftCollected amount (collect chosen candidate))
    (chosen : List (Candidate Number)) :
    (candidates.map (renumber (.shift amount))).foldlM collect (chosen.map (renumber (.shift amount))) =
      shiftCollected amount (candidates.foldlM collect chosen) := by
  induction candidates generalizing chosen with
  | nil => rfl
  | cons candidate rest inductionHypothesis =>
      rw [List.map_cons, List.foldlM_cons, List.foldlM_cons, each candidate (.head _)]
      cases collect chosen candidate with
      | error fault => rfl
      | ok grown => exact inductionHypothesis (fun other isOther => each other (.tail _ isOther)) grown

/-- Two candidates for a node are different exactly when they are so under greater identifiers. -/
theorem collect_shift (chosen : List (Candidate Number)) (candidate : Candidate Number) :
    collect (chosen.map (renumber (.shift amount))) (candidate.renumber (.shift amount)) =
      shiftCollected amount (collect chosen candidate) := by
  induction smaller : sizeOf candidate using Nat.strongRecOn generalizing candidate chosen with
  | _ size inductionHypothesis =>
      subst smaller
      have identifier_shift : ∀ other : Candidate Number,
          (other.renumber (.shift amount)).identifier = other.identifier + amount := by
        intro other
        rw [renumber_eq]
        rfl
      rw [collect_eq, collect_eq, node_renumber, find?_renumber]
      cases chosen.find? fun other => other.node.identifier == candidate.node.identifier with
      | some known =>
          simp only [Option.map_some, identifier_shift, Nat.add_right_cancel_iff]
          split <;> rfl
      | none =>
          have sources_eq : (candidate.renumber (.shift amount)).inputs.reverse.map Channel.source =
              (candidate.inputs.reverse.map Channel.source).map (renumber (.shift amount)) := by
            rw [List.map_reverse, sources_renumber, List.map_reverse, List.map_reverse]
          have extended : chosen.map (renumber (.shift amount)) ++ [candidate.renumber (.shift amount)] =
              (chosen ++ [candidate]).map (renumber (.shift amount)) := by simp
          simp only [Option.map_none]
          rw [sources_eq, extended]
          apply foldlM_collect_shift
          intro source isSource grown
          obtain ⟨channel, isInput, rfl⟩ := List.mem_map.mp isSource
          exact inductionHypothesis (sizeOf channel.source)
            (sizeOf_source_lt (List.mem_reverse.mp isInput)) grown channel.source rfl

end Candidate

/-- Under greater identifiers of the candidates the plan is the same, and so is a fault but for them. -/
theorem PhysicalPlan.ofCandidates_shift
    {Number : Type}
    {amount : Nat}
    {job : Job}
    {order : List Nat}
    {roots : List (Candidate Number)} :
    ofCandidates job order (roots.map (Candidate.renumber (.shift amount))) =
      (ofCandidates job order roots).mapError (OperatorFault.shift amount) := by
  have walked : (roots.map (Candidate.renumber (.shift amount))).reverse.foldlM Candidate.collect [] =
      Candidate.shiftCollected amount (roots.reverse.foldlM Candidate.collect []) := by
    rw [← List.map_reverse]
    exact Candidate.foldlM_collect_shift (fun candidate _ chosen => Candidate.collect_shift chosen candidate) []
  unfold ofCandidates
  rw [walked]
  cases roots.reverse.foldlM Candidate.collect [] with
  | error fault => rfl
  | ok collected =>
      have nodes_eq : ∀ identifiers : List Nat,
          (identifiers.filterMap fun identifier =>
            (collected.map (Candidate.renumber (.shift amount))).find? fun candidate =>
              candidate.node.identifier == identifier).map PhysicalNode.ofCandidate =
          (identifiers.filterMap fun identifier =>
            collected.find? fun candidate => candidate.node.identifier == identifier).map
              PhysicalNode.ofCandidate := by
        intro identifiers
        simp only [Candidate.find?_renumber, ← List.map_filterMap, List.map_map, Function.comp_def,
          Candidate.ofCandidate_renumber]
      refine congrArg Except.ok ?_
      simp only [nodes_eq, List.map_map, Function.comp_def, Candidate.node_renumber]

end Dataflow
