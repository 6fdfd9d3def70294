import Dataflow.Proofs.ExactCost
import Dataflow.Proofs.Physical.Collection
import Dataflow.Proofs.Search.BranchPlans
import Mathlib.Algebra.Module.BigOperators

namespace Dataflow

/-!
# Costs along paths

The cumulative cost of a candidate has the cost of each candidate that it rests on as often as there are paths to the
node of that one.  The number of paths only depends on the program, but what is counted so often does not.
-/

namespace Program

variable {Number : Type} {program : Program Number}

/-- The number of ways to come from a node to the one with an identifier by going from nodes to their inputs. -/
def pathCount (program : Program Number) (ref : program.Ref) (identifier : Nat) : Nat :=
  (if program.identifier ref = identifier then 1 else 0) +
    ((program.inputs ref).attach.map fun input => program.pathCount input.val identifier).sum
termination_by ref.val
decreasing_by exact lt_of_mem_inputs input.property

/-- The recursion without the proofs that it ends. -/
theorem pathCount_eq (ref : program.Ref) (identifier : Nat) :
    program.pathCount ref identifier =
      (if program.identifier ref = identifier then 1 else 0) +
        ((program.inputs ref).map fun input => program.pathCount input identifier).sum := by
  rw [pathCount]
  show _ + ((program.inputs ref).attach.map _).sum = _
  rw [List.attach_map_val (f := fun input => program.pathCount input identifier)]

/-- There is a path to every node that a node depends on. -/
theorem pathCount_pos
    {ref other : program.Ref}
    (depends : program.DependsOn ref other) :
    0 < program.pathCount ref (program.identifier other) := by
  induction depends with
  | self ref =>
      rw [pathCount_eq, if_pos rfl]
      exact Nat.add_pos_left Nat.one_pos _
  | @reads ref input other isInput _ inductionHypothesis =>
      rw [pathCount_eq]
      have amongInputs : program.pathCount input (program.identifier other) ≤
          ((program.inputs ref).map fun reader => program.pathCount reader (program.identifier other)).sum :=
        List.le_sum_of_mem (List.mem_map.mpr ⟨input, isInput, rfl⟩)
      omega

end Program

namespace Candidate

variable {Number : Type}

/-- Every node below the candidate is executed by a single candidate. -/
def ExecutesOnce (candidate : Candidate Number) : Prop :=
  ∀ first second, candidate.RestsOn first → candidate.RestsOn second →
    first.node.identifier = second.node.identifier → first = second

/-- The candidates that are executed with a candidate. -/
structure Comprises (candidate : Candidate Number) (executed : List (Candidate Number)) : Prop where
  collected : collect [] candidate = .ok executed
  /-- No node is executed twice. -/
  apart : executed.Pairwise fun first second => first.node.identifier ≠ second.node.identifier
  mem_iff : ∀ {below}, below ∈ executed ↔ candidate.RestsOn below

theorem ExecutesOnce.exists_comprised
    {candidate : Candidate Number}
    (once : candidate.ExecutesOnce) :
    ∃ executed, candidate.Comprises executed := by
  have hereditary : walk.Hereditary candidate.RestsOn := by
    intro below rests source isSource
    obtain ⟨channel, isInput, rfl⟩ := List.mem_map.mp (mem_next_walk.mp isSource)
    exact rests.trans (.ofInput isInput)
  have consistent : walk.Consistent candidate.RestsOn := fun first second restsOnFirst restsOnSecond sameNode =>
    congrArg Candidate.identifier (once first second restsOnFirst restsOnSecond sameNode)
  have noneMet : ∀ other ∈ ([] : List (Candidate Number)), candidate.RestsOn other := by simp
  obtain ⟨executed, collected, _⟩ := Walk.exists_step_eq_ok hereditary consistent (.self candidate) noneMet
  have walked : walk.Walked [] executed [candidate] := Walk.walked_step collected
  have itselfRests : ∀ root ∈ [candidate], candidate.RestsOn root :=
    fun root isRoot => List.mem_singleton.mp isRoot ▸ .self candidate
  obtain ⟨within, closed, rootExecuted⟩ := closed_of_walked hereditary
    (fun restsOnFirst restsOnSecond sameNode _ => once _ _ restsOnFirst restsOnSecond sameNode) itselfRests walked
  exact ⟨executed, collected, walked.apart List.Pairwise.nil,
    fun {below} => ⟨within below, fun rests => rests.mem_of_closed closed (rootExecuted candidate (.head _))⟩⟩

namespace Comprises

variable {candidate : Candidate Number} {executed : List (Candidate Number)}

theorem nodup (comprises : candidate.Comprises executed) : executed.Nodup :=
  (show walk.Apart executed from comprises.apart).nodup

theorem closed
    (comprises : candidate.Comprises executed) :
    ∀ reader ∈ executed, ∀ source ∈ reader.inputs.map Channel.source, source ∈ executed := by
  intro reader isExecuted source isSource
  obtain ⟨channel, isInput, rfl⟩ := List.mem_map.mp isSource
  exact comprises.mem_iff.mpr ((comprises.mem_iff.mp isExecuted).trans (.ofInput isInput))

end Comprises

section Costs

variable [Arithmetic Number]

/-- The cost of a driver and of the channels that bring its inputs. -/
def ownCost (candidate : Candidate Number) : Cost Number :=
  candidate.inputs.foldl (fun total channel => total + channel.cost) candidate.nodeCost

variable [ExactlyCounted Number]

theorem foldl_add_eq
    {Item : Type}
    {items : List Item}
    {amount : Item → Cost Number}
    (start : Cost Number) :
    items.foldl (fun total item => total + amount item) start = start + (items.map amount).sum := by
  induction items generalizing start with
  | nil => simp
  | cons item rest inductionHypothesis =>
      rw [List.foldl_cons, inductionHypothesis, List.map_cons, List.sum_cons, add_assoc]

/-- A candidate costs as much as it adds itself, and as its sources. -/
theorem cumulativeCost_eq_of_accumulated
    {candidate : Candidate Number}
    (accumulated : candidate.cumulativeCost = accumulate candidate.nodeCost candidate.inputs) :
    candidate.cumulativeCost =
      candidate.ownCost + ((candidate.inputs.map Channel.source).map cumulativeCost).sum := by
  simp only [accumulated, accumulate, ownCost, add_assoc, foldl_add_eq, List.sum_map_add, List.map_map,
    Function.comp_def]

/-- The cost of candidates that are executed, each counted once. -/
def executedCost (executed : List (Candidate Number)) : Cost Number := (executed.map ownCost).sum

end Costs

end Candidate

namespace Program

variable {Number : Type} [Arithmetic Number] [ExactlyCounted Number] {program : Program Number}

/-- The cost of candidates, each counted once for every path from a node to the node of the candidate. -/
def pathCost (program : Program Number) (ref : program.Ref) (executed : List (Candidate Number)) : Cost Number :=
  (executed.map fun other => program.pathCount ref other.node.identifier • other.ownCost).sum

/-- The cost of candidates, each counted for every path but one from a node to the node of the candidate. -/
def repeatedCost (program : Program Number) (ref : program.Ref) (executed : List (Candidate Number)) :
    Cost Number :=
  (executed.map fun other => (program.pathCount ref other.node.identifier - 1) • other.ownCost).sum

theorem pathCost_eq_executedCost_add
    {ref : program.Ref}
    {executed : List (Candidate Number)}
    (reached : ∀ other ∈ executed, 0 < program.pathCount ref other.node.identifier) :
    program.pathCost ref executed = Candidate.executedCost executed + program.repeatedCost ref executed := by
  rw [pathCost, Candidate.executedCost, repeatedCost, ← List.sum_map_add]
  refine congrArg List.sum (List.map_congr_left fun other isExecuted => ?_)
  rw [← succ_nsmul', Nat.sub_add_cancel (reached other isExecuted)]

theorem repeatedCost_cons
    {ref : program.Ref}
    {other : Candidate Number}
    {rest : List (Candidate Number)} :
    program.repeatedCost ref (other :: rest) =
      (program.pathCount ref other.node.identifier - 1) • other.ownCost + program.repeatedCost ref rest :=
  List.sum_cons

/-- Only candidates of nodes that are reached along several paths are repeated. -/
theorem repeatedCost_filter
    (ref : program.Ref)
    (executed : List (Candidate Number)) :
    program.repeatedCost ref (executed.filter fun other =>
        decide (1 < program.pathCount ref other.node.identifier)) =
      program.repeatedCost ref executed := by
  induction executed with
  | nil => rfl
  | cons other rest inductionHypothesis =>
      rw [List.filter_cons, repeatedCost_cons]
      split
      · rw [repeatedCost_cons, inductionHypothesis]
      · rename_i onePath
        have notRepeated : program.pathCount ref other.node.identifier - 1 = 0 := by
          rw [decide_eq_true_eq] at onePath
          omega
        rw [inductionHypothesis, notRepeated, zero_smul, zero_add]

/-- What is repeated costs the same wherever the candidates that are repeated are the same. -/
theorem repeatedCost_congr
    {ref : program.Ref}
    {executed others : List (Candidate Number)}
    (nodup : executed.Nodup)
    (othersNodup : others.Nodup)
    (shared : ∀ below, 1 < program.pathCount ref below.node.identifier → (below ∈ executed ↔ below ∈ others)) :
    program.repeatedCost ref executed = program.repeatedCost ref others := by
  have sameRepeated : (executed.filter fun other => decide (1 < program.pathCount ref other.node.identifier)).Perm
      (others.filter fun other => decide (1 < program.pathCount ref other.node.identifier)) := by
    rw [List.perm_ext_iff_of_nodup (nodup.filter _) (othersNodup.filter _)]
    intro below
    rw [List.mem_filter, List.mem_filter, and_congr_left_iff, decide_eq_true_eq]
    exact shared below
  rw [← repeatedCost_filter ref executed, ← repeatedCost_filter ref others]
  exact (sameRepeated.map _).sum_eq

/-- What is counted along the paths from the inputs of a node is counted along the paths from the node. -/
theorem sum_pathCost_inputs
    {refs : List program.Ref}
    {executed : List (Candidate Number)} :
    (refs.map fun input => program.pathCost input executed).sum =
      (executed.map fun other =>
        (refs.map fun input => program.pathCount input other.node.identifier).sum • other.ownCost).sum := by
  induction refs with
  | nil => simp
  | cons ref rest inductionHypothesis =>
      rw [List.map_cons, List.sum_cons, inductionHypothesis, pathCost, ← List.sum_map_add]
      simp only [List.map_cons, List.sum_cons, add_smul]

/-- The paths from a node are the one to itself and those from its inputs. -/
theorem pathCost_eq
    {ref : program.Ref}
    {candidate : Candidate Number}
    {executed : List (Candidate Number)}
    (isNode : candidate.node.identifier = program.identifier ref)
    (apart : Candidate.walk.Apart executed)
    (member : candidate ∈ executed) :
    program.pathCost ref executed =
      candidate.ownCost + ((program.inputs ref).map fun input => program.pathCost input executed).sum := by
  -- Only one candidate in the list is for the node, so the path to the node itself counts this one.
  have ofItself : (executed.map fun other =>
      (if program.identifier ref = other.node.identifier then 1 else 0) • other.ownCost).sum =
        candidate.ownCost := by
    classical
    rw [List.sum_map_eq_nsmul_single candidate, List.count_eq_one_of_mem apart.nodup member, one_smul,
      if_pos isNode.symm, one_smul]
    intro other different isExecuted
    have otherNode : program.identifier ref ≠ other.node.identifier := fun same =>
      different (apart.eq_of_key_eq isExecuted member (same.symm.trans isNode.symm))
    rw [if_neg otherNode, zero_smul]
  rw [sum_pathCost_inputs, ← ofItself, ← List.sum_map_add, pathCost]
  simp only [pathCount_eq ref, add_smul]

end Program

namespace Enumeration

variable {Number : Type} [Arithmetic Number] {program : Program Number}
variable {enumeration : Enumeration program} {progress : Progress Number} {done : List program.Ref}
variable {ref : program.Ref} {candidate : Candidate Number}

theorem accumulated_of_produced
    {number : Nat}
    (isProduced : candidate ∈ enumeration.produced progress ref number) :
    candidate.cumulativeCost = Candidate.accumulate candidate.nodeCost candidate.inputs := by
  obtain ⟨_, _, _, rfl⟩ := mem_produced_iff.mp isProduced
  rfl

namespace Stage

theorem accumulated
    (stage : enumeration.Stage done progress)
    (isDone : ref ∈ done)
    (isCandidate : candidate ∈ candidatesOf progress ref) :
    candidate.cumulativeCost = Candidate.accumulate candidate.nodeCost candidate.inputs := by
  obtain ⟨number, candidates_eq⟩ := stage.settled.candidates_eq ref isDone
  rw [candidatesOf, candidates_eq, survivors_eq_map_opened] at isCandidate
  obtain ⟨original, isKept, rfl⟩ := List.mem_map.mp isCandidate
  have accumulated := accumulated_of_produced (stage.keeps _ original isKept)
  unfold opened
  split
  · exact accumulated
  · exact accumulated

/-- A produced candidate rests on itself, and on candidates of nodes below its own. -/
theorem exists_dependency_of_produced
    (stage : enumeration.Stage done progress)
    (inputsDone : ∀ input ∈ program.inputs ref, input ∈ done)
    (produced : enumeration.Produced progress ref candidate)
    {below : Candidate Number}
    (rests : candidate.RestsOn below) :
    below = candidate ∨ ∃ other ∈ done, program.DependsOn ref other ∧ below ∈ candidatesOf progress other := by
  cases rests with
  | self => exact .inl rfl
  | @reads _ _ channel isInput onward =>
      obtain ⟨input, readsInput, sourceThere⟩ := produced.exists_input (List.mem_map.mpr ⟨channel, isInput, rfl⟩)
      have inputDone := inputsDone input readsInput
      obtain ⟨other, depends, isBelow⟩ := stage.exists_dependency onward inputDone sourceThere
      exact .inr ⟨other, stage.mem_of_dependsOn inputDone depends, .reads readsInput depends, isBelow⟩

/-- Every node below a produced candidate is executed by a single candidate. -/
theorem executesOnce_of_produced
    (stage : enumeration.Stage done progress)
    (isThere : ref ∈ enumeration.graph.order)
    (isNew : ref ∉ done)
    (inputsDone : ∀ input ∈ program.inputs ref, input ∈ done)
    (produced : enumeration.Produced progress ref candidate) :
    candidate.ExecutesOnce := by
  have coherent := stage.coherent_of_produced isThere inputsDone
    (fun input isInput source isSource => stage.exact (inputsDone input isInput) isSource) produced
  have notItsNode : ∀ other ∈ done, ∀ below ∈ candidatesOf progress other,
      below.node.identifier ≠ candidate.node.identifier := by
    intro other otherDone below isBelow sameNode
    rw [stage.node_eq otherDone isBelow, produced.node_eq] at sameNode
    exact isNew (stage.wellFormed.apart other (stage.mem_order otherDone) ref isThere sameNode ▸ otherDone)
  intro first second restsOnFirst restsOnSecond sameNode
  rcases stage.exists_dependency_of_produced inputsDone produced restsOnFirst with
    rfl | ⟨left, leftDone, _, isFirst⟩
  · rcases stage.exists_dependency_of_produced inputsDone produced restsOnSecond with
      rfl | ⟨right, rightDone, _, isSecond⟩
    · rfl
    · exact absurd sameNode.symm (notItsNode right rightDone second isSecond)
  · rcases stage.exists_dependency_of_produced inputsDone produced restsOnSecond with
      rfl | ⟨right, rightDone, _, isSecond⟩
    · exact absurd sameNode (notItsNode left leftDone first isFirst)
    · refine stage.eq_of_explored ⟨left, leftDone, isFirst⟩ ⟨right, rightDone, isSecond⟩ sameNode ?_
      exact coherent _ _ _ restsOnFirst.chooses (sameNode ▸ restsOnSecond.chooses)

variable [ExactlyCounted Number] {executed : List (Candidate Number)}

/-- Below a candidate everything is counted along all paths, if this is so below all its sources. -/
theorem cumulativeCost_eq_of_sources
    (isNode : candidate.node.identifier = program.identifier ref)
    (accumulated : candidate.cumulativeCost = Candidate.accumulate candidate.nodeCost candidate.inputs)
    (fromInputs : candidate.inputs.map Channel.source ∈
      combinations ((program.inputs ref).map (candidatesOf progress)))
    (each : ∀ input ∈ program.inputs ref, ∀ source ∈ candidatesOf progress input,
      source ∈ candidate.inputs.map Channel.source → source.cumulativeCost = program.pathCost input executed)
    (apart : Candidate.walk.Apart executed)
    (member : candidate ∈ executed) :
    candidate.cumulativeCost = program.pathCost ref executed := by
  rw [Candidate.cumulativeCost_eq_of_accumulated accumulated, Program.pathCost_eq isNode apart member,
    map_eq_map_of_mem_combinations fromInputs each]

/-- The cost of a candidate counts all that it rests on along all paths to it. -/
theorem cumulativeCost_eq_pathCost
    (stage : enumeration.Stage done progress)
    (apart : Candidate.walk.Apart executed)
    (closed : ∀ reader ∈ executed, ∀ source ∈ reader.inputs.map Channel.source, source ∈ executed)
    (isDone : ref ∈ done)
    (isCandidate : candidate ∈ candidatesOf progress ref)
    (member : candidate ∈ executed) :
    candidate.cumulativeCost = program.pathCost ref executed := by
  -- The induction is on the node.  The list stays the same, so that the sums of all sources range over it.
  induction position : ref.val using Nat.strongRecOn generalizing ref candidate with
  | _ position inductionHypothesis =>
      subst position
      have isNode : candidate.node.identifier = program.identifier ref := by
        rw [stage.node_eq isDone isCandidate]
        rfl
      refine cumulativeCost_eq_of_sources isNode (stage.accumulated isDone isCandidate)
        (stage.sources_mem isDone isCandidate) ?_ apart member
      intro input isInput source sourceThere isSource
      exact inductionHypothesis input.val (Program.lt_of_mem_inputs isInput)
        (stage.mem_of_dependsOn isDone (.ofInput isInput)) sourceThere (closed candidate member source isSource) rfl

/-- A produced candidate costs what is executed for it, and once more what is repeated along other paths. -/
theorem cumulativeCost_eq_of_produced
    (stage : enumeration.Stage done progress)
    (inputsDone : ∀ input ∈ program.inputs ref, input ∈ done)
    {number : Nat}
    (isProduced : candidate ∈ enumeration.produced progress ref number)
    (comprises : candidate.Comprises executed) :
    candidate.cumulativeCost = Candidate.executedCost executed + program.repeatedCost ref executed := by
  have produced := produced_of_mem isProduced
  have isNode : candidate.node.identifier = program.identifier ref := by
    rw [produced.node_eq]
    rfl
  have member : candidate ∈ executed := comprises.mem_iff.mpr (.self candidate)
  have reached : ∀ other ∈ executed, 0 < program.pathCount ref other.node.identifier := by
    intro other isExecuted
    rcases stage.exists_dependency_of_produced inputsDone produced (comprises.mem_iff.mp isExecuted) with
      rfl | ⟨below, belowDone, depends, isBelow⟩
    · exact isNode ▸ Program.pathCount_pos (.self ref)
    · rw [stage.node_eq belowDone isBelow]
      exact Program.pathCount_pos depends
  rw [← Program.pathCost_eq_executedCost_add reached]
  refine cumulativeCost_eq_of_sources isNode (accumulated_of_produced isProduced) produced.sources ?_
    comprises.apart member
  intro input isInput source sourceThere isSource
  exact stage.cumulativeCost_eq_pathCost comprises.apart comprises.closed (inputsDone input isInput) sourceThere
    (comprises.closed candidate member source isSource)

end Stage

end Enumeration

end Dataflow
