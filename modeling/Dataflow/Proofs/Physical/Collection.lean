import Dataflow.Physical.Basic
import Dataflow.Proofs.Search.Stage
import Dataflow.Proofs.Walk

namespace Dataflow

/-!
# Collection of the chosen candidates

The candidates that the chosen sink candidates rest on are collected by a walk, which finds one candidate
for each node below the sinks.
-/

namespace Candidate

variable {Number : Type}

/-- The recursion without the proofs that it ends. -/
theorem collect_eq (chosen : List (Candidate Number)) (candidate : Candidate Number) :
    collect chosen candidate =
      match chosen.find? fun other => other.node.identifier == candidate.node.identifier with
      | some known =>
          if known.identifier = candidate.identifier then
            .ok chosen
          else
            .error <| .executedTwice candidate.node.name known.identifier candidate.identifier
      | none =>
          (candidate.inputs.reverse.map Channel.source).foldlM collect (chosen ++ [candidate]) := by
  rw [collect]
  cases chosen.find? fun other => other.node.identifier == candidate.node.identifier with
  | some known => rfl
  | none =>
      show candidate.inputs.reverse.attach.foldlM _ (chosen ++ [candidate]) = _
      rw [List.foldlM_map,
        List.foldlM_subtype (g := fun grown channel => collect grown channel.source) (fun _ _ _ => rfl),
        List.unattach_attach]

/-- Collecting is a walk on which a candidate with the same identifier stands for another one. -/
noncomputable def walk : Walk OperatorFault (Candidate Number) where
  key candidate := candidate.node.identifier
  next candidate := candidate.inputs.reverse.map Channel.source
  Same known candidate := known.identifier = candidate.identifier
  step := collect
  size := sizeOf
  same_refl _ := rfl
  size_next := by
    intro candidate source isSource
    obtain ⟨channel, isInput, rfl⟩ := List.mem_map.mp isSource
    exact sizeOf_source_lt (List.mem_reverse.mp isInput)
  step_of_met := by
    intro chosen candidate known found
    rw [collect_eq, found]
    refine ⟨fun same => if_pos same, ?_⟩
    intro grown succeeded
    by_cases same : known.identifier = candidate.identifier
    · exact same
    · simp [same] at succeeded
  step_of_new := by
    intro chosen candidate notFound
    rw [collect_eq, notFound]

@[simp]
theorem mem_next_walk
    {candidate source : Candidate Number} :
    source ∈ walk.next candidate ↔ source ∈ candidate.inputs.map Channel.source := by
  simp [walk]

/-- With a candidate, a list that is closed under inputs has all that the candidate rests on. -/
theorem RestsOn.mem_of_closed
    {candidates : List (Candidate Number)}
    (closed : ∀ candidate ∈ candidates, ∀ source ∈ candidate.inputs.map Channel.source, source ∈ candidates)
    {candidate below : Candidate Number}
    (rests : candidate.RestsOn below)
    (member : candidate ∈ candidates) :
    below ∈ candidates := by
  induction rests with
  | self candidate => exact member
  | @reads candidate below channel isInput _ inductionHypothesis =>
      exact inductionHypothesis (closed candidate member channel.source (List.mem_map.mpr ⟨channel, isInput, rfl⟩))

/--
Among candidates that are equal when a walk takes them for each other, a walk collects what it has come from, and the
sources of all that it collects.
-/
theorem closed_of_walked
    {Keeps : Candidate Number → Prop}
    (hereditary : walk.Hereditary Keeps)
    (identified : ∀ {first second}, Keeps first → Keeps second →
      first.node.identifier = second.node.identifier → first.identifier = second.identifier → first = second)
    {roots collected : List (Candidate Number)}
    (keepsRoots : ∀ root ∈ roots, Keeps root)
    (walked : walk.Walked [] collected roots) :
    (∀ candidate ∈ collected, Keeps candidate) ∧
      (∀ candidate ∈ collected, ∀ source ∈ candidate.inputs.map Channel.source, source ∈ collected) ∧
      ∀ root ∈ roots, root ∈ collected := by
  have within : ∀ candidate ∈ collected, Keeps candidate := by
    intro candidate isCollected
    rcases walked.within _ hereditary keepsRoots candidate isCollected with inNothing | keeps
    · exact absurd inNothing (by simp)
    · exact keeps
  -- What has been met in place of a candidate is that candidate itself.
  have mem_of_met : ∀ candidate, Keeps candidate → walk.Met collected candidate → candidate ∈ collected := by
    rintro candidate keeps ⟨known, isCollected, sameNode, sameChoice⟩
    exact identified (within known isCollected) keeps sameNode sameChoice ▸ isCollected
  refine ⟨within, fun candidate isCollected source isSource => ?_, fun root isRoot => ?_⟩
  · have isNext := mem_next_walk.mpr isSource
    exact mem_of_met source (hereditary candidate (within candidate isCollected) source isNext)
      (walked.hereditary_met isCollected source isNext)
  · exact mem_of_met root (keepsRoots root isRoot) (walked.reached root isRoot)

/-- Some root rests on the candidate. -/
def BelowRoots (roots : List (Candidate Number)) (candidate : Candidate Number) : Prop :=
  ∃ root ∈ roots, root.RestsOn candidate

theorem hereditary_belowRoots (roots : List (Candidate Number)) :
    walk.Hereditary (BelowRoots roots) := by
  rintro candidate ⟨root, isRoot, rests⟩ source isSource
  obtain ⟨channel, isInput, rfl⟩ := List.mem_map.mp (mem_next_walk.mp isSource)
  exact ⟨root, isRoot, rests.trans (.ofInput isInput)⟩

/-- A walk finds no two candidates for a node below coherent roots, and below no others. -/
theorem consistent_belowRoots_iff
    {roots : List (Candidate Number)} :
    walk.Consistent (BelowRoots roots) ↔ Coherent roots := by
  constructor
  · intro consistent first isFirst second isSecond
    rintro node _ _ ⟨one, restsOnOne, isNode, rfl⟩ ⟨other, restsOnOther, sameNode, rfl⟩
    exact consistent one other ⟨first, isFirst, restsOnOne⟩ ⟨second, isSecond, restsOnOther⟩
      (isNode.trans sameNode.symm)
  · rintro coherent one other ⟨first, isFirst, restsOnOne⟩ ⟨second, isSecond, restsOnOther⟩ sameNode
    exact coherent first isFirst second isSecond one.node.identifier one.identifier other.identifier
      restsOnOne.chooses ⟨other, restsOnOther, sameNode.symm, rfl⟩

theorem exists_collected
    {roots : List (Candidate Number)}
    (coherent : Coherent roots) :
    ∃ collected, roots.reverse.foldlM collect [] = .ok collected := by
  obtain ⟨collected, walked, _⟩ :=
    Walk.exists_walk_eq_ok (hereditary_belowRoots roots) (consistent_belowRoots_iff.mpr coherent)
      fun root isRoot => ⟨root, List.mem_reverse.mp isRoot, .self root⟩
  exact ⟨collected, walked⟩

/-- Where collecting fails, the fault names two candidates below the roots that execute the same node. -/
theorem exists_executedTwice
    {roots : List (Candidate Number)}
    {fault : OperatorFault}
    (failed : roots.reverse.foldlM collect [] = .error fault) :
    ∃ first second, BelowRoots roots first ∧ BelowRoots roots second ∧
      first.node.identifier = second.node.identifier ∧ first.identifier ≠ second.identifier ∧
      fault = .executedTwice second.node.name first.identifier second.identifier := by
  obtain ⟨met, second, first, isSecond, isFirst, found, refused⟩ :=
    Walk.refuses_of_walk (hereditary_belowRoots roots)
      (fun root isRoot => ⟨root, List.mem_reverse.mp isRoot, .self root⟩) failed
  replace found : met.find? (fun other => other.node.identifier == second.node.identifier) = some first :=
    found
  have sameNode : first.node.identifier = second.node.identifier := by
    simpa using List.find?_some found
  replace refused : collect met second = .error fault := refused
  rw [collect_eq, found] at refused
  by_cases same : first.identifier = second.identifier
  · simp [same] at refused
  · refine ⟨first, second, isFirst, isSecond, sameNode, same, ?_⟩
    simpa [same, eq_comm] using refused

end Candidate

namespace PhysicalPlan

variable {Number : Type} {job : Job} {order : List Nat} {roots : List (Candidate Number)}

/-- The plan is written down from the candidates that have been collected. -/
theorem ofCandidates_eq_ok_iff
    {physical : PhysicalPlan Number} :
    ofCandidates job order roots = .ok physical ↔
      ∃ collected, roots.reverse.foldlM Candidate.collect [] = .ok collected ∧
        physical =
          { job
            nodes := (order.filterMap fun identifier =>
              collected.find? fun candidate => candidate.node.identifier == identifier).map
                PhysicalNode.ofCandidate
            sinks := roots.map fun candidate => candidate.node.identifier } := by
  unfold ofCandidates
  cases roots.reverse.foldlM Candidate.collect [] with
  | error fault => simp [bind, Except.bind]
  | ok collected => simp [bind, Except.bind, pure, Except.pure, eq_comm]

theorem ofCandidates_eq_error_iff
    {fault : OperatorFault} :
    ofCandidates job order roots = .error fault ↔
      roots.reverse.foldlM Candidate.collect [] = .error fault := by
  unfold ofCandidates
  cases roots.reverse.foldlM Candidate.collect [] with
  | error fault => simp [bind, Except.bind]
  | ok collected => simp [bind, Except.bind, pure, Except.pure]

end PhysicalPlan

namespace Enumeration.Stage

variable {Number : Type} [Arithmetic Number] {program : Program Number}
variable {enumeration : Enumeration program} {progress : Progress Number} {done : List program.Ref}

/-- A candidate of some visited node. -/
def Explored (progress : Progress Number) (done : List program.Ref) (candidate : Candidate Number) :
    Prop :=
  ∃ ref ∈ done, candidate ∈ candidatesOf progress ref

theorem hereditary_explored (stage : enumeration.Stage done progress) :
    Candidate.walk.Hereditary (Explored progress done) := by
  rintro candidate ⟨ref, isDone, isCandidate⟩ source isSource
  rw [Candidate.mem_next_walk] at isSource
  obtain ⟨input, isInput, isThere⟩ :=
    (mem_of_mem_combinations_map (stage.sources_mem isDone isCandidate)).1 source isSource
  exact ⟨input, stage.mem_of_dependsOn isDone (.ofInput isInput), isThere⟩

/-- Candidates of visited nodes that a walk takes for each other are equal. -/
theorem eq_of_explored
    (stage : enumeration.Stage done progress)
    {first second : Candidate Number}
    (isFirst : Explored progress done first)
    (isSecond : Explored progress done second)
    (sameNode : first.node.identifier = second.node.identifier)
    (sameChoice : first.identifier = second.identifier) :
    first = second := by
  obtain ⟨left, leftDone, firstThere⟩ := isFirst
  obtain ⟨right, rightDone, secondThere⟩ := isSecond
  rw [stage.node_eq leftDone firstThere, stage.node_eq rightDone secondThere] at sameNode
  obtain rfl := stage.eq_of_identifier_eq leftDone rightDone sameNode
  exact stage.eq_of_choice_eq leftDone firstThere secondThere sameChoice

theorem explored_of_belowRoots
    (stage : enumeration.Stage done progress)
    {roots : List (Candidate Number)}
    (explored : ∀ root ∈ roots, Explored progress done root)
    {candidate : Candidate Number}
    (isBelow : Candidate.BelowRoots roots candidate) :
    Explored progress done candidate := by
  obtain ⟨root, isRoot, rests⟩ := isBelow
  obtain ⟨ref, isDone, rootThere⟩ := explored root isRoot
  obtain ⟨other, depends, isThere⟩ := stage.exists_dependency rests isDone rootThere
  exact ⟨other, stage.mem_of_dependsOn isDone depends, isThere⟩

/-- The candidate that has been collected for a node, and those for the nodes that it reads. -/
structure Collected
    (progress : Progress Number)
    (done : List program.Ref)
    (collected : List (Candidate Number)) : Prop where
  explored : ∀ candidate ∈ collected, Explored progress done candidate
  closed : ∀ candidate ∈ collected, ∀ source ∈ candidate.inputs.map Channel.source, source ∈ collected
  apart : ∀ first ∈ collected, ∀ second ∈ collected,
    first.node.identifier = second.node.identifier → first = second

theorem collected_of_walked
    (stage : enumeration.Stage done progress)
    {roots collected : List (Candidate Number)}
    (explored : ∀ root ∈ roots, Explored progress done root)
    (walked : roots.reverse.foldlM Candidate.collect [] = .ok collected) :
    Collected progress done collected ∧ ∀ root ∈ roots, root ∈ collected := by
  have walk : Candidate.walk.Walked [] collected roots.reverse := Walk.walked walked
  obtain ⟨allExplored, closed, rootsCollected⟩ := Candidate.closed_of_walked stage.hereditary_explored
    stage.eq_of_explored (fun root isRoot => explored root (List.mem_reverse.mp isRoot)) walk
  refine ⟨⟨allExplored, closed, ?_⟩, fun root isRoot => rootsCollected root (List.mem_reverse.mpr isRoot)⟩
  exact fun first isFirst second isSecond =>
    (walk.apart List.Pairwise.nil).eq_of_key_eq isFirst isSecond

/-- The candidate that has been collected for a node, or another one if there is none. -/
def chosenFor
    (program : Program Number)
    (collected : List (Candidate Number))
    (other : Candidate Number)
    (ref : program.Ref) :
    Candidate Number :=
  (collected.find? fun candidate => candidate.node.identifier == program.identifier ref).getD other

namespace Collected

variable {collected : List (Candidate Number)}

omit [Arithmetic Number] in
theorem mem_of_restsOn
    (isCollected : Collected progress done collected)
    {candidate below : Candidate Number}
    (rests : candidate.RestsOn below)
    (member : candidate ∈ collected) :
    below ∈ collected := by
  exact rests.mem_of_closed isCollected.closed member

/-- Looking for a node finds the candidate that has been collected for it. -/
theorem find?_eq
    (stage : enumeration.Stage done progress)
    (isCollected : Collected progress done collected)
    {ref : program.Ref}
    (isDone : ref ∈ done)
    {candidate : Candidate Number}
    (member : candidate ∈ collected)
    (isCandidate : candidate ∈ candidatesOf progress ref) :
    (collected.find? fun other => other.node.identifier == program.identifier ref) = some candidate := by
  have isNode : candidate.node.identifier = program.identifier ref := by
    rw [stage.node_eq isDone isCandidate]
    rfl
  cases found : collected.find? fun other => other.node.identifier == program.identifier ref with
  | none =>
      have absent := List.find?_eq_none.mp found candidate member
      simp [isNode] at absent
  | some other =>
      have sameNode : other.node.identifier = program.identifier ref := by
        simpa using List.find?_some found
      exact congrArg some <| isCollected.apart other (List.mem_of_find?_eq_some found) candidate member
        (sameNode.trans isNode.symm)

/-- A candidate has been collected for each node that the node of a collected one depends on. -/
theorem exists_of_dependsOn
    (stage : enumeration.Stage done progress)
    (isCollected : Collected progress done collected)
    {ref other : program.Ref}
    (isDone : ref ∈ done)
    {candidate : Candidate Number}
    (member : candidate ∈ collected)
    (isCandidate : candidate ∈ candidatesOf progress ref)
    (depends : program.DependsOn ref other) :
    ∃ below ∈ collected, below ∈ candidatesOf progress other := by
  obtain ⟨below, rests, isBelow⟩ := stage.exists_restsOn depends isDone isCandidate
  exact ⟨below, isCollected.mem_of_restsOn rests member, isBelow⟩

end Collected

/-- Candidates of visited nodes can be collected exactly when they are coherent. -/
theorem exists_collected_iff_coherent
    (stage : enumeration.Stage done progress)
    {roots : List (Candidate Number)}
    (explored : ∀ root ∈ roots, Explored progress done root) :
    (∃ collected, roots.reverse.foldlM Candidate.collect [] = .ok collected) ↔ Candidate.Coherent roots := by
  constructor
  · rintro ⟨collected, walked⟩
    obtain ⟨isCollected, rootsCollected⟩ := stage.collected_of_walked explored walked
    rw [← Candidate.consistent_belowRoots_iff]
    rintro one other ⟨first, isFirst, restsOnOne⟩ ⟨second, isSecond, restsOnOther⟩ sameNode
    exact congrArg Candidate.identifier <| isCollected.apart
      one (isCollected.mem_of_restsOn restsOnOne (rootsCollected first isFirst))
      other (isCollected.mem_of_restsOn restsOnOther (rootsCollected second isSecond)) sameNode
  · exact Candidate.exists_collected

end Enumeration.Stage

end Dataflow
