import Dataflow.Proofs.Search.Exactness
import Dataflow.Search.Optimizer

namespace Dataflow

/-!
# Branch plans of all candidates

By induction on the position of its node every candidate has an exact branch plan: what is merged from its
sources and is not closed are its choices for the branches that are open at its node.
-/

namespace Enumeration

variable {Number : Type} [Arithmetic Number] {program : Program Number}
variable {enumeration : Enumeration program} {progress : Progress Number} {done : List program.Ref}

namespace Stage

variable {ref : program.Ref} {candidate : Candidate Number}

/-- No candidate of an input makes a choice for the node that reads it. -/
theorem not_chooses_reader
    (stage : enumeration.Stage done progress)
    (isThere : ref ∈ enumeration.graph.order)
    {input : program.Ref}
    (isInput : input ∈ program.inputs ref)
    (inputDone : input ∈ done)
    {source : Candidate Number}
    (isSource : source ∈ candidatesOf progress input)
    {choice : Nat} :
    ¬ source.Chooses (program.identifier ref) choice := by
  rintro ⟨below, rests, isNode, _⟩
  obtain ⟨other, depends, isBelow⟩ := stage.exists_dependency rests inputDone isSource
  have otherDone := stage.mem_of_dependsOn inputDone depends
  rw [stage.node_eq otherDone isBelow] at isNode
  obtain rfl : other = ref :=
    stage.wellFormed.apart other (stage.mem_order otherDone) ref isThere isNode
  exact Program.DependsOn.not_of_mem_inputs isInput depends

/-- A produced candidate rests on coherent sources, and on nothing else for its own node. -/
theorem coherent_of_produced
    (stage : enumeration.Stage done progress)
    (isThere : ref ∈ enumeration.graph.order)
    (inputsDone : ∀ input ∈ program.inputs ref, input ∈ done)
    (exact : ∀ input ∈ program.inputs ref, ∀ source ∈ candidatesOf progress input,
      Exact enumeration.graph input source)
    (produced : enumeration.Produced progress ref candidate) :
    candidate.CoherentWith candidate := by
  obtain ⟨merged, isMerged, _⟩ := produced.merged
  have agree := BranchPlan.isSome_merge?_iff_agree.mp (Option.isSome_iff_exists.mpr ⟨merged, isMerged⟩)
  have coherent := (stage.agree_iff_coherent (stage.wellFormed.inputs_separated isThere) inputsDone exact
    produced.sources).mp agree
  have onlyItself : ∀ source ∈ candidate.inputs.map Channel.source, ∀ choice,
      ¬ source.Chooses candidate.node.identifier choice := by
    intro source isSource choice
    obtain ⟨input, isInput, sourceThere⟩ := produced.exists_input isSource
    rw [produced.node_eq]
    exact stage.not_chooses_reader isThere isInput (inputsDone input isInput) sourceThere
  intro node one other choosesOne choosesOther
  rcases Candidate.chooses_iff.mp choosesOne with ⟨rfl, rfl⟩ | ⟨first, isFirst, firstChooses⟩
  · rcases Candidate.chooses_iff.mp choosesOther with ⟨_, rfl⟩ | ⟨second, isSecond, secondChooses⟩
    · rfl
    · exact absurd secondChooses (onlyItself second isSecond other)
  · rcases Candidate.chooses_iff.mp choosesOther with ⟨rfl, rfl⟩ | ⟨second, isSecond, secondChooses⟩
    · exact absurd firstChooses (onlyItself first isFirst one)
    · exact coherent first isFirst second isSecond node one other firstChooses secondChooses

/-- A branch below a node is closed there when it is not open. -/
theorem closes_iff
    (stage : enumeration.Stage done progress)
    {branch : program.Ref}
    (branchThere : branch ∈ enumeration.graph.order) :
    (enumeration.scope progress ref).closes (program.identifier branch) = true ↔
      ∀ consumer ∈ enumeration.graph.consumers branch, program.DependsOn ref consumer := by
  show enumeration.graph.consumedWithin (program.dependencies ref) (program.identifier branch) = true ↔ _
  rw [stage.wellFormed.consumedWithin_iff branchThere]
  simp only [Program.mem_dependencies]

/-- The branch plan of a produced candidate has its choices for the open branches below its node. -/
theorem branchPlan_of_produced
    (stage : enumeration.Stage done progress)
    (isThere : ref ∈ enumeration.graph.order)
    (inputsDone : ∀ input ∈ program.inputs ref, input ∈ done)
    (exact : ∀ input ∈ program.inputs ref, ∀ source ∈ candidatesOf progress input,
      Exact enumeration.graph input source)
    (produced : enumeration.Produced progress ref candidate)
    {identifier choice : Nat} :
    candidate.branchPlan.get? identifier = some choice ↔
      (∃ branch, branch ≠ ref ∧ program.identifier branch = identifier ∧
        enumeration.graph.Open ref branch) ∧
        candidate.Chooses identifier choice := by
  obtain ⟨merged, isMerged, branchPlan_eq⟩ := produced.merged
  rw [branchPlan_eq, AttemptScope.narrow, SortedMap.get?_filterKeys]
  constructor
  · intro found
    split at found
    · rename_i notClosed
      obtain ⟨plan, isPlan, foundInPlan⟩ := (BranchPlan.get?_merge? isMerged).mp found
      obtain ⟨source, isSource, rfl⟩ := List.mem_map.mp isPlan
      obtain ⟨input, isInput, sourceThere⟩ := produced.exists_input isSource
      obtain ⟨⟨branch, rfl, isOpen⟩, sourceChooses⟩ :=
        (exact input isInput source sourceThere).branchPlan_iff.mp foundInPlan
      have depends := (Program.DependsOn.ofInput isInput).trans isOpen.depends
      have branchThere := stage.wellFormed.mem_of_dependsOn depends isThere
      have elsewhere : ∃ consumer ∈ enumeration.graph.consumers branch,
          ¬ program.DependsOn ref consumer := by
        apply Classical.byContradiction
        intro nowhere
        have closed := (stage.closes_iff branchThere).mpr fun consumer isConsumer =>
          Classical.byContradiction fun outside => nowhere ⟨consumer, isConsumer, outside⟩
        simp [closed] at notClosed
      have notItself : branch ≠ ref := by
        rintro rfl
        exact Program.DependsOn.not_of_mem_inputs isInput isOpen.depends
      refine ⟨⟨branch, notItself, rfl, depends, isOpen.branching, elsewhere⟩, ?_⟩
      exact Candidate.chooses_iff.mpr (.inr ⟨source, isSource, sourceChooses⟩)
    · exact absurd found (by simp)
  · rintro ⟨⟨branch, notItself, rfl, isOpen⟩, chooses⟩
    have branchThere := stage.wellFormed.mem_of_dependsOn isOpen.depends isThere
    obtain ⟨consumer, isConsumer, elsewhere⟩ := isOpen.elsewhere
    have notClosed : (enumeration.scope progress ref).closes (program.identifier branch) = false := by
      rw [← Bool.not_eq_true]
      exact fun closed => elsewhere ((stage.closes_iff branchThere).mp closed consumer isConsumer)
    rw [notClosed, if_pos (by rfl), BranchPlan.get?_merge? isMerged]
    rcases Candidate.chooses_iff.mp chooses with ⟨isNode, _⟩ | ⟨source, isSource, sourceChooses⟩
    · rw [produced.node_eq] at isNode
      exact absurd (stage.wellFormed.apart ref isThere branch branchThere isNode).symm notItself
    · obtain ⟨input, isInput, sourceThere⟩ := produced.exists_input isSource
      have inputDone := inputsDone input isInput
      obtain ⟨below, rests, isNode, _⟩ := sourceChooses
      obtain ⟨other, depends, isBelow⟩ := stage.exists_dependency rests inputDone sourceThere
      have otherDone := stage.mem_of_dependsOn inputDone depends
      have sameNode : other = branch := by
        rw [stage.node_eq otherDone isBelow] at isNode
        exact stage.wellFormed.apart other (stage.mem_order otherDone) branch branchThere isNode
      have openBelow := isOpen.between (.ofInput isInput) (sameNode ▸ depends)
      exact ⟨source.branchPlan, List.mem_map.mpr ⟨source, isSource, rfl⟩,
        (exact input isInput source sourceThere).branchPlan_iff.mpr
          ⟨⟨branch, rfl, openBelow⟩, below, rests, isNode, ‹_›⟩⟩

omit [Arithmetic Number] in
theorem get?_opened (enumeration : Enumeration program) (node identifier : Nat) :
    (enumeration.opened node candidate).branchPlan.get? identifier =
      if enumeration.graph.isBranching node = true ∧ identifier = candidate.node.identifier then
        some candidate.identifier
      else
        candidate.branchPlan.get? identifier := by
  unfold opened
  by_cases branching : enumeration.graph.isBranching node = true
  · simp [branching, Candidate.openBranch, SortedMap.get?_insert]
  · simp [branching]

/-- Opening a produced candidate adds the choice for its own node if this is a branch. -/
theorem exact_of_produced
    (stage : enumeration.Stage done progress)
    (isThere : ref ∈ enumeration.graph.order)
    (inputsDone : ∀ input ∈ program.inputs ref, input ∈ done)
    (exact : ∀ input ∈ program.inputs ref, ∀ source ∈ candidatesOf progress input,
      Exact enumeration.graph input source)
    (produced : enumeration.Produced progress ref candidate) :
    Exact enumeration.graph ref (enumeration.opened (program.identifier ref) candidate) := by
  have coherent := stage.coherent_of_produced isThere inputsDone exact produced
  have choosesItself : candidate.Chooses (program.identifier ref) candidate.identifier :=
    ⟨candidate, .self candidate, by rw [produced.node_eq]; rfl, rfl⟩
  refine ⟨?_, ?_⟩
  · intro node one other choosesOne choosesOther
    rw [chooses_opened] at choosesOne choosesOther
    exact coherent node one other choosesOne choosesOther
  · intro identifier choice
    have isBranching := stage.wellFormed.isBranching_iff isThere
    rw [get?_opened, chooses_opened, produced.node_eq]
    split
    · rename_i ownBranch
      obtain ⟨branching, isOwn⟩ := ownBranch
      obtain rfl : identifier = program.identifier ref := isOwn
      rw [Option.some.injEq]
      constructor
      · rintro rfl
        exact ⟨⟨ref, rfl, .self (isBranching.mp branching)⟩, choosesItself⟩
      · exact fun chosen => coherent _ _ _ choosesItself chosen.2
    · rename_i otherBranch
      rw [stage.branchPlan_of_produced isThere inputsDone exact produced, and_congr_left_iff]
      intro _
      constructor
      · rintro ⟨branch, _, isBranch, isOpen⟩
        exact ⟨branch, isBranch, isOpen⟩
      · rintro ⟨branch, isBranch, isOpen⟩
        refine ⟨branch, ?_, isBranch, isOpen⟩
        rintro rfl
        exact otherBranch ⟨isBranching.mpr isOpen.branching, isBranch.symm⟩

theorem exact
    (stage : enumeration.Stage done progress)
    (isDone : ref ∈ done)
    (isCandidate : candidate ∈ candidatesOf progress ref) :
    Exact enumeration.graph ref candidate := by
  induction position : ref.val using Nat.strongRecOn generalizing ref candidate with
  | _ position inductionHypothesis =>
      subst position
      obtain ⟨original, produced, rfl⟩ := stage.exists_produced isDone isCandidate
      have inputsDone : ∀ input ∈ program.inputs ref, input ∈ done :=
        fun input isInput => stage.mem_of_dependsOn isDone (.ofInput isInput)
      apply stage.exact_of_produced (stage.mem_order isDone) inputsDone _ produced
      intro input isInput source isSource
      exact inductionHypothesis input.val (Program.lt_of_mem_inputs isInput) (inputsDone input isInput)
        isSource rfl

/-- Branch plans of candidates for separated nodes can be merged exactly when these are coherent. -/
theorem isSome_merge?_iff_coherent
    (stage : enumeration.Stage done progress)
    {refs : List program.Ref}
    (separated : refs.Pairwise enumeration.graph.Separated)
    (within : ∀ ref ∈ refs, ref ∈ done)
    {chosen : List (Candidate Number)}
    (isChoice : chosen ∈ combinations (refs.map (candidatesOf progress))) :
    (BranchPlan.merge? (chosen.map Candidate.branchPlan)).isSome = true ↔ Candidate.Coherent chosen := by
  rw [BranchPlan.isSome_merge?_iff_agree]
  exact stage.agree_iff_coherent separated within
    (fun ref isNode candidate isCandidate => stage.exact (within ref isNode) isCandidate) isChoice

/-- A produced candidate executes every node that its node depends on in exactly one way. -/
theorem exists_unique_choice_of_produced
    (stage : enumeration.Stage done progress)
    (isThere : ref ∈ enumeration.graph.order)
    (inputsDone : ∀ input ∈ program.inputs ref, input ∈ done)
    (produced : enumeration.Produced progress ref candidate)
    {other : program.Ref}
    (depends : program.DependsOn ref other) :
    ∃ choice, candidate.Chooses (program.identifier other) choice ∧
      ∀ another, candidate.Chooses (program.identifier other) another → another = choice := by
  have coherent := stage.coherent_of_produced isThere inputsDone
    (fun input isInput source isSource => stage.exact (inputsDone input isInput) isSource) produced
  have chooses : ∃ choice, candidate.Chooses (program.identifier other) choice := by
    rcases depends.eq_or_input with rfl | ⟨input, isInput, onward⟩
    · exact ⟨candidate.identifier, candidate, .self candidate, by rw [produced.node_eq]; rfl, rfl⟩
    · obtain ⟨source, isSource, sourceThere⟩ := produced.exists_source isInput
      have inputDone := inputsDone input isInput
      obtain ⟨below, rests, isBelow⟩ := stage.exists_restsOn onward inputDone sourceThere
      have otherDone := stage.mem_of_dependsOn inputDone onward
      exact ⟨below.identifier, Candidate.chooses_iff.mpr <| .inr ⟨source, isSource,
        (stage.chooses_iff inputDone otherDone sourceThere).mpr ⟨below, rests, isBelow, rfl⟩⟩⟩
  obtain ⟨choice, isChoice⟩ := chooses
  exact ⟨choice, isChoice, fun another isAnother => coherent _ another choice isAnother isChoice⟩

end Stage

end Enumeration

end Dataflow
