import Dataflow.Proofs.Search.Run

namespace Dataflow.Enumeration

/-!
# Stages of a run

At every stage of a run that has not failed, what a candidate rests on are candidates of the nodes that
its node depends on, one for each path to them.
-/

variable {Number : Type} [Arithmetic Number] {program : Program Number}
variable {enumeration : Enumeration program} {progress : Progress Number}

/-- The candidates of a node that later nodes may be built on. -/
def candidatesOf (progress : Progress Number) (ref : program.Ref) : List (Candidate Number) :=
  progress.candidates (program.identifier ref)

/-- What the production of a candidate for a node says about it. -/
structure Produced
    (enumeration : Enumeration program)
    (progress : Progress Number)
    (ref : program.Ref)
    (candidate : Candidate Number) : Prop where
  node_eq : candidate.node = program.node ref
  sources : candidate.inputs.map Channel.source ∈
    combinations ((program.inputs ref).map (candidatesOf progress))
  merged : ∃ merged,
    BranchPlan.merge? ((candidate.inputs.map Channel.source).map Candidate.branchPlan) = some merged ∧
      candidate.branchPlan = (enumeration.scope progress ref).narrow merged
  parallelism_eq : candidate.parallelism = (enumeration.context progress ref).parallelism
  admitted : candidate.driver ∈ admittedDrivers (program.node ref)
  /-- The channels meet one row of requirements of the driver. -/
  row : ∃ requirements ∈ candidate.driver.requirements,
    ∀ (position : Nat) (channel : Channel Number (Candidate Number)) (requirement : InputRequirement),
      candidate.inputs[position]? = some channel →
      requirements[position]? = some requirement →
      channel ∈ channel.source.channels
        ((enumeration.scope progress ref).request candidate.driver position requirement) enumeration.model
  compatible : candidate.driver.IsCompatible (candidate.inputs.map Channel.globally)

theorem produced_of_mem
    {ref : program.Ref}
    {number : Nat}
    {candidate : Candidate Number}
    (member : candidate ∈ enumeration.produced progress ref number) :
    enumeration.Produced progress ref candidate := by
  obtain ⟨index, assembly, isAssembly, rfl⟩ := mem_produced_iff.mp member
  obtain ⟨requirements, isRow, admitted, succeeds⟩ :=
    mem_assemblies_iff.mp (List.mem_of_getElem? isAssembly)
  exact ⟨rfl, succeeds.fromInputs, succeeds.merged, rfl, admitted,
    ⟨requirements, isRow, succeeds.synthesised⟩, succeeds.compatible⟩

namespace Produced

variable {ref : program.Ref} {candidate : Candidate Number}

theorem exists_input
    (produced : enumeration.Produced progress ref candidate)
    {source : Candidate Number}
    (isSource : source ∈ candidate.inputs.map Channel.source) :
    ∃ input ∈ program.inputs ref, source ∈ candidatesOf progress input :=
  (mem_of_mem_combinations_map produced.sources).1 source isSource

theorem exists_source
    (produced : enumeration.Produced progress ref candidate)
    {input : program.Ref}
    (isInput : input ∈ program.inputs ref) :
    ∃ source ∈ candidate.inputs.map Channel.source, source ∈ candidatesOf progress input :=
  (mem_of_mem_combinations_map produced.sources).2 input isInput

end Produced

/-- A run has visited leading nodes of its graph, and none of them failed. -/
structure Stage
    (enumeration : Enumeration program)
    (done : List program.Ref)
    (progress : Progress Number) : Prop where
  wellFormed : enumeration.graph.WellFormed
  leading : done <+: enumeration.graph.order
  keeps : ∀ produced, ∀ candidate ∈ enumeration.keep produced, candidate ∈ produced
  settled : enumeration.Settled done progress

namespace Stage

variable {done : List program.Ref}

theorem mem_order
    (stage : enumeration.Stage done progress)
    {ref : program.Ref}
    (isDone : ref ∈ done) :
    ref ∈ enumeration.graph.order :=
  stage.leading.subset isDone

theorem mem_of_dependsOn
    (stage : enumeration.Stage done progress)
    {ref other : program.Ref}
    (isDone : ref ∈ done)
    (depends : program.DependsOn ref other) :
    other ∈ done := by
  obtain ⟨rest, order_eq⟩ := stage.leading
  have inputsFirst := stage.wellFormed.inputsFirst
  rw [← order_eq] at inputsFirst
  exact inputsFirst.of_append.mem_of_dependsOn depends isDone

/-- Nodes of the graph are told apart by the nodes that candidates are for. -/
theorem eq_of_identifier_eq
    (stage : enumeration.Stage done progress)
    {first second : program.Ref}
    (firstDone : first ∈ done)
    (secondDone : second ∈ done)
    (sameIdentifier : program.identifier first = program.identifier second) :
    first = second :=
  stage.wellFormed.apart first (stage.mem_order firstDone) second (stage.mem_order secondDone) sameIdentifier

/-- No node has been visited at the start. -/
theorem start
    (wellFormed : enumeration.graph.WellFormed)
    (keeps : ∀ produced, ∀ candidate ∈ enumeration.keep produced, candidate ∈ produced)
    (progress : Progress Number) :
    enumeration.Stage [] progress where
  wellFormed := wellFormed
  leading := List.nil_prefix
  keeps := keeps
  settled := ⟨fun _ isDone => absurd isDone (by simp), fun _ isDone => absurd isDone (by simp)⟩

theorem visit
    (stage : enumeration.Stage done progress)
    {ref : program.Ref}
    (leading : done ++ [ref] <+: enumeration.graph.order)
    (succeeded : (enumeration.visit progress ref).failure = none) :
    enumeration.Stage (done ++ [ref]) (enumeration.visit progress ref).progress := by
  refine ⟨stage.wellFormed, leading, stage.keeps, ?_⟩
  obtain ⟨rest, order_eq⟩ := leading
  have inputsFirst := stage.wellFormed.inputsFirst
  rw [← order_eq] at inputsFirst
  apply stage.settled.visit inputsFirst.of_append _ succeeded
  exact stage.wellFormed.apart.mono fun other isThere => order_eq ▸ List.mem_append_left rest isThere

theorem visitAll
    {rest : List program.Ref}
    (stage : enumeration.Stage done progress)
    (leading : done ++ rest <+: enumeration.graph.order)
    (succeeded : (enumeration.visitAll rest progress).failure = none) :
    enumeration.Stage (done ++ rest) (enumeration.visitAll rest progress).progress := by
  induction rest generalizing done progress with
  | nil => simpa [Enumeration.visitAll] using stage
  | cons ref rest inductionHypothesis =>
      obtain ⟨visited, visitAll_eq⟩ := visitAll_cons succeeded
      have regrouped : done ++ ref :: rest = (done ++ [ref]) ++ rest := by simp
      rw [visitAll_eq] at succeeded ⊢
      rw [regrouped] at leading ⊢
      have next := stage.visit ((List.prefix_append _ rest).trans leading) visited
      exact inductionHypothesis next leading succeeded

/-- The next node reads visited nodes, and has not been visited itself. -/
theorem inputs_done
    (stage : enumeration.Stage done progress)
    {ref : program.Ref}
    (leading : done ++ [ref] <+: enumeration.graph.order) :
    (∀ input ∈ program.inputs ref, input ∈ done) ∧ ref ∉ done ∧ ref ∈ enumeration.graph.order := by
  obtain ⟨rest, order_eq⟩ := leading
  have inputsFirst := stage.wellFormed.inputsFirst
  rw [← order_eq, List.append_assoc] at inputsFirst
  refine ⟨inputsFirst.inputsBefore rfl, ?_, ?_⟩
  · intro isDone
    exact (List.nodup_append.mp inputsFirst.nodup).2.2 ref isDone ref (by simp) rfl
  · simp [← order_eq]

/-- A visit leaves the candidates of other nodes as they are. -/
theorem candidatesOf_visit
    (stage : enumeration.Stage done progress)
    {ref : program.Ref}
    (leading : done ++ [ref] <+: enumeration.graph.order)
    (succeeded : (enumeration.visit progress ref).failure = none)
    {other : program.Ref}
    (otherDone : other ∈ done) :
    candidatesOf (enumeration.visit progress ref).progress other = candidatesOf progress other := by
  obtain ⟨_, isNew, isThere⟩ := stage.inputs_done leading
  have different : program.identifier other ≠ program.identifier ref := fun same =>
    isNew (stage.wellFormed.apart other (stage.mem_order otherDone) ref isThere same ▸ otherDone)
  rw [candidatesOf, candidates_visit succeeded, if_neg different]
  rfl

/-- The candidates of a visited node have been produced for it and then opened. -/
theorem exists_produced
    (stage : enumeration.Stage done progress)
    {ref : program.Ref}
    (isDone : ref ∈ done)
    {candidate : Candidate Number}
    (isCandidate : candidate ∈ candidatesOf progress ref) :
    ∃ original, enumeration.Produced progress ref original ∧
      candidate = enumeration.opened (program.identifier ref) original := by
  obtain ⟨number, candidates_eq⟩ := stage.settled.candidates_eq ref isDone
  rw [candidatesOf, candidates_eq, survivors_eq_map_opened] at isCandidate
  obtain ⟨original, isKept, rfl⟩ := List.mem_map.mp isCandidate
  exact ⟨original, produced_of_mem (stage.keeps _ original isKept), rfl⟩

theorem eq_of_choice_eq
    (stage : enumeration.Stage done progress)
    {ref : program.Ref}
    (isDone : ref ∈ done)
    {first second : Candidate Number}
    (isFirst : first ∈ candidatesOf progress ref)
    (isSecond : second ∈ candidatesOf progress ref)
    (sameChoice : first.identifier = second.identifier) :
    first = second := by
  obtain ⟨number, candidates_eq⟩ := stage.settled.candidates_eq ref isDone
  rw [candidatesOf, candidates_eq, survivors_eq_map_opened] at isFirst isSecond
  obtain ⟨one, oneKept, rfl⟩ := List.mem_map.mp isFirst
  obtain ⟨other, otherKept, rfl⟩ := List.mem_map.mp isSecond
  obtain ⟨oneIndex, oneAssembly, isOne, rfl⟩ := mem_produced_iff.mp (stage.keeps _ one oneKept)
  obtain ⟨otherIndex, otherAssembly, isOther, rfl⟩ :=
    mem_produced_iff.mp (stage.keeps _ other otherKept)
  rw [identifier_opened, identifier_opened] at sameChoice
  obtain rfl : oneIndex = otherIndex := Nat.add_left_cancel sameChoice
  obtain rfl : oneAssembly = otherAssembly := Option.some.inj (isOne.symm.trans isOther)
  rfl

theorem node_eq
    (stage : enumeration.Stage done progress)
    {ref : program.Ref}
    (isDone : ref ∈ done)
    {candidate : Candidate Number}
    (isCandidate : candidate ∈ candidatesOf progress ref) :
    candidate.node = program.node ref := by
  obtain ⟨original, produced, rfl⟩ := stage.exists_produced isDone isCandidate
  rw [node_opened, produced.node_eq]

theorem eq_of_mem
    (stage : enumeration.Stage done progress)
    {left right : program.Ref}
    (leftDone : left ∈ done)
    (rightDone : right ∈ done)
    {candidate : Candidate Number}
    (inLeft : candidate ∈ candidatesOf progress left)
    (inRight : candidate ∈ candidatesOf progress right) :
    left = right := by
  apply stage.eq_of_identifier_eq leftDone rightDone
  rw [Program.identifier, ← stage.node_eq leftDone inLeft, stage.node_eq rightDone inRight]
  rfl

theorem sources_mem
    (stage : enumeration.Stage done progress)
    {ref : program.Ref}
    (isDone : ref ∈ done)
    {candidate : Candidate Number}
    (isCandidate : candidate ∈ candidatesOf progress ref) :
    candidate.inputs.map Channel.source ∈
      combinations ((program.inputs ref).map (candidatesOf progress)) := by
  obtain ⟨original, produced, rfl⟩ := stage.exists_produced isDone isCandidate
  rw [inputs_opened]
  exact produced.sources

/-- A candidate rests on candidates of nodes that its node depends on. -/
theorem exists_dependency
    (stage : enumeration.Stage done progress)
    {candidate below : Candidate Number}
    (rests : candidate.RestsOn below)
    {ref : program.Ref}
    (isDone : ref ∈ done)
    (isCandidate : candidate ∈ candidatesOf progress ref) :
    ∃ other, program.DependsOn ref other ∧ below ∈ candidatesOf progress other := by
  induction rests generalizing ref with
  | self candidate => exact ⟨ref, .self ref, isCandidate⟩
  | @reads candidate below channel isInput _ inductionHypothesis =>
      obtain ⟨input, readsInput, isThere⟩ :=
        (mem_of_mem_combinations_map (stage.sources_mem isDone isCandidate)).1 channel.source
          (List.mem_map.mpr ⟨channel, isInput, rfl⟩)
      obtain ⟨other, depends, isBelow⟩ :=
        inductionHypothesis (stage.mem_of_dependsOn isDone (.ofInput readsInput)) isThere
      exact ⟨other, .reads readsInput depends, isBelow⟩

/-- A candidate rests on a candidate of each node that its node depends on. -/
theorem exists_restsOn
    (stage : enumeration.Stage done progress)
    {ref other : program.Ref}
    (depends : program.DependsOn ref other)
    (isDone : ref ∈ done)
    {candidate : Candidate Number}
    (isCandidate : candidate ∈ candidatesOf progress ref) :
    ∃ below, candidate.RestsOn below ∧ below ∈ candidatesOf progress other := by
  induction depends generalizing candidate with
  | self ref => exact ⟨candidate, .self candidate, isCandidate⟩
  | @reads ref input other readsInput _ inductionHypothesis =>
      obtain ⟨source, isSource, isThere⟩ :=
        (mem_of_mem_combinations_map (stage.sources_mem isDone isCandidate)).2 input readsInput
      obtain ⟨channel, isInput, rfl⟩ := List.mem_map.mp isSource
      obtain ⟨below, rests, isBelow⟩ :=
        inductionHypothesis (stage.mem_of_dependsOn isDone (.ofInput readsInput)) isThere
      exact ⟨below, .reads isInput rests, isBelow⟩

/-- A choice of a candidate is a candidate, that it rests on, of a node that its node depends on. -/
theorem chooses_iff
    (stage : enumeration.Stage done progress)
    {ref other : program.Ref}
    (isDone : ref ∈ done)
    (otherDone : other ∈ done)
    {candidate : Candidate Number}
    (isCandidate : candidate ∈ candidatesOf progress ref)
    {choice : Nat} :
    candidate.Chooses (program.identifier other) choice ↔
      ∃ below, candidate.RestsOn below ∧ below ∈ candidatesOf progress other ∧
        below.identifier = choice := by
  constructor
  · rintro ⟨below, rests, isNode, isChoice⟩
    obtain ⟨node, depends, isThere⟩ := stage.exists_dependency rests isDone isCandidate
    have nodeDone := stage.mem_of_dependsOn isDone depends
    rw [stage.node_eq nodeDone isThere] at isNode
    obtain rfl : node = other := stage.eq_of_identifier_eq nodeDone otherDone isNode
    exact ⟨below, rests, isThere, isChoice⟩
  · rintro ⟨below, rests, isThere, isChoice⟩
    refine ⟨below, rests, ?_, isChoice⟩
    rw [stage.node_eq otherDone isThere]
    rfl

end Stage

end Dataflow.Enumeration
