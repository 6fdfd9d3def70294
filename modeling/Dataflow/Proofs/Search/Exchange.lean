import Dataflow.Proofs.Candidate.Maximality
import Dataflow.Proofs.Candidate.Substitution
import Dataflow.Proofs.Search.Assignment
import Dataflow.Proofs.Search.Retention

namespace Dataflow.Enumeration

/-!
# Exchange of candidates

An assignment of candidates in the run in which nothing is dropped can be exchanged for one of retained
candidates, node by node.  The candidate of a node is first built on what is now assigned to the inputs, and
then exchanged for the retained one that dominates it.  What this one rests on replaces what was assigned
below it.  Nodes that are still to be read keep what they have, for they are open branches or not below it.
-/

variable {Number : Type} [Arithmetic Number] {program : Program Number}
variable {enumeration : Enumeration program} {full : Progress Number}
variable {done : List program.Ref} {ref : program.Ref} {weights : Weights Number}

namespace Stage

theorem of_append
    {rest : List program.Ref}
    (stage : enumeration.Stage (done ++ rest) full) :
    enumeration.Stage done full where
  wellFormed := stage.wellFormed
  leading := (List.prefix_append done rest).trans stage.leading
  keeps := stage.keeps
  settled :=
    { candidates_eq := fun ref isDone => stage.settled.candidates_eq ref (List.mem_append_left rest isDone)
      statistics_eq := fun ref isDone => stage.settled.statistics_eq ref (List.mem_append_left rest isDone) }

/-- The candidates of a visited node are instances of assemblies. -/
theorem exists_instance
    (stage : enumeration.Stage done full)
    (isDone : ref ∈ done)
    {candidate : Candidate Number}
    (isCandidate : candidate ∈ candidatesOf full ref) :
    ∃ assembly ∈ enumeration.assemblies full ref, ∃ identifier,
      candidate = enumeration.opened (program.identifier ref)
        (assembly.instantiate (enumeration.context full ref) enumeration.model identifier) := by
  obtain ⟨number, candidates_eq⟩ := stage.settled.candidates_eq ref isDone
  rw [candidatesOf, candidates_eq, survivors_eq_map_opened] at isCandidate
  obtain ⟨original, isKept, rfl⟩ := List.mem_map.mp isCandidate
  obtain ⟨index, assembly, found, rfl⟩ := mem_produced_iff.mp (stage.keeps _ original isKept)
  exact ⟨assembly, List.mem_of_getElem? found, number + index, rfl⟩

/-- Where nothing is dropped, every assembly has an instance. -/
theorem exists_mem_of_assembly
    (stage : enumeration.unpruned.Stage done full)
    (isDone : ref ∈ done)
    {assembly : Assembly Number}
    (isAssembly : assembly ∈ enumeration.assemblies full ref) :
    ∃ identifier, enumeration.opened (program.identifier ref)
      (assembly.instantiate (enumeration.context full ref) enumeration.model identifier) ∈
        candidatesOf full ref := by
  obtain ⟨number, candidates_eq⟩ := stage.settled.candidates_eq ref isDone
  obtain ⟨index, found⟩ := List.mem_iff_getElem?.mp isAssembly
  refine ⟨number + index, ?_⟩
  rw [candidatesOf, candidates_eq, survivors_eq_map_opened]
  exact List.mem_map.mpr ⟨_, mem_produced_iff.mpr ⟨index, assembly, found, rfl⟩, rfl⟩

theorem size_eq
    (stage : enumeration.Stage done full)
    (isDone : ref ∈ done)
    {first second : Candidate Number}
    (isFirst : first ∈ candidatesOf full ref)
    (isSecond : second ∈ candidatesOf full ref) :
    first.statistics = second.statistics ∧ first.parallelism = second.parallelism := by
  obtain ⟨one, _, _, rfl⟩ := stage.exists_instance isDone isFirst
  obtain ⟨other, _, _, rfl⟩ := stage.exists_instance isDone isSecond
  simp [Assembly.instantiate]

end Stage

omit [Arithmetic Number] in
theorem map_source_substitute
    (substitute : Candidate Number → Candidate Number)
    (inputs : List (Channel Number (Candidate Number))) :
    (inputs.map (Channel.substitute substitute)).map Channel.source =
      (inputs.map Channel.source).map substitute := by
  rw [List.map_map, List.map_map]
  rfl

/-- An attempt that succeeds also does so on substitutes that agree with each other. -/
theorem succeeds_substitute
    {scope : AttemptScope Number}
    {row : Row}
    {assembly : Assembly Number}
    (succeeds : scope.Succeeds row assembly)
    {substitute : Candidate Number → Candidate Number}
    (substitutes : ∀ channel ∈ assembly.inputs, (substitute channel.source).Substitutes weights channel.source)
    (fromInputs : (assembly.inputs.map Channel.source).map substitute ∈ combinations scope.inputs)
    {merged : BranchPlan}
    (isMerged : BranchPlan.merge? (((assembly.inputs.map Channel.source).map substitute).map
      Candidate.branchPlan) = some merged) :
    scope.Succeeds row (assembly.substitute substitute (scope.narrow merged)) := by
  have sources_eq : (assembly.substitute substitute (scope.narrow merged)).inputs.map Channel.source =
      (assembly.inputs.map Channel.source).map substitute := map_source_substitute substitute assembly.inputs
  refine ⟨succeeds.driver_eq, sources_eq ▸ fromInputs, ⟨merged, sources_eq ▸ isMerged, rfl⟩, ?_, ?_⟩
  · intro position channel requirement isChannel isRequirement
    rw [Assembly.substitute, List.getElem?_map] at isChannel
    obtain ⟨original, isOriginal, rfl⟩ := Option.map_eq_some_iff.mp isChannel
    have isInput : original ∈ assembly.inputs := List.mem_of_getElem? isOriginal
    show _ ∈ (substitute original.source).channels _ _
    rw [(substitutes original isInput).channels_eq]
    exact List.mem_map.mpr ⟨original, succeeds.synthesised position original requirement isOriginal isRequirement, rfl⟩
  · rw [Assembly.substitute, Channel.map_globally_substitute]
    exact succeeds.compatible

/-- The candidates of different inputs are different, so that each of them tells its own substitute. -/
theorem Stage.exists_substitution
    (stage : enumeration.Stage done full)
    (isDone : ref ∈ done)
    {former : program.Ref → Candidate Number}
    (formerThere : ∀ input ∈ program.inputs ref, former input ∈ candidatesOf full input)
    (choice : program.Ref → Candidate Number) :
    ∃ substitute : Candidate Number → Candidate Number,
      ∀ input ∈ program.inputs ref, substitute (former input) = choice input := by
  have eachSource : ∀ source : Candidate Number, ∃ other : Candidate Number,
      ∀ input ∈ program.inputs ref, source = former input → other = choice input := by
    intro source
    by_cases isRead : ∃ input ∈ program.inputs ref, source = former input
    · obtain ⟨input, isInput, rfl⟩ := isRead
      refine ⟨choice input, fun another isAnother same => ?_⟩
      have inputDone := stage.mem_of_dependsOn isDone (.ofInput isInput)
      have anotherDone := stage.mem_of_dependsOn isDone (.ofInput isAnother)
      rw [stage.eq_of_mem inputDone anotherDone (formerThere input isInput) (same ▸ formerThere another isAnother)]
    · exact ⟨source, fun input isInput same => absurd ⟨input, isInput, same⟩ isRead⟩
  obtain ⟨substitute, substitute_eq⟩ := Classical.axiomOfChoice eachSource
  exact ⟨substitute, fun input isInput => substitute_eq (former input) input isInput rfl⟩

theorem substitutes_opened
    {candidate original : Candidate Number}
    (substitutes : candidate.Substitutes weights original)
    {identifier : Nat} :
    (enumeration.opened identifier candidate).Substitutes weights (enumeration.opened identifier original) where
  globally_eq := by simpa using substitutes.globally_eq
  locally_eq := by simpa using substitutes.locally_eq
  parallelism_eq := by simpa using substitutes.parallelism_eq
  statistics_eq := by simpa using substitutes.statistics_eq
  notDearer := by simpa [Candidate.weightedCost] using substitutes.notDearer

/-- A node has a candidate on substitutes for what another candidate reads, which is a substitute for that one. -/
theorem Stage.exists_substitute
    [ExactlyAdded Number]
    (stage : enumeration.unpruned.Stage done full)
    (isDone : ref ∈ done)
    {former choice : program.Ref → Candidate Number}
    (isFormer : former ref ∈ candidatesOf full ref)
    (sources_eq : (former ref).inputs.map Channel.source = (program.inputs ref).map former)
    (formerThere : ∀ input ∈ program.inputs ref, former input ∈ candidatesOf full input)
    (isThere : ∀ input ∈ program.inputs ref, choice input ∈ candidatesOf full input)
    (substitutes : ∀ input ∈ program.inputs ref, (choice input).Substitutes weights (former input))
    (mergeable : (BranchPlan.merge? (((program.inputs ref).map choice).map
      Candidate.branchPlan)).isSome = true) :
    ∃ candidate ∈ candidatesOf full ref,
      candidate.inputs.map Channel.source = (program.inputs ref).map choice ∧
        candidate.Substitutes weights (former ref) := by
  obtain ⟨substitute, substitute_eq⟩ := stage.exists_substitution isDone formerThere choice
  obtain ⟨assembly, isAssembly, identifier, former_eq⟩ := stage.exists_instance isDone isFormer
  rw [former_eq, inputs_opened] at sources_eq
  replace sources_eq : assembly.inputs.map Channel.source = (program.inputs ref).map former := sources_eq
  have substituted : (assembly.inputs.map Channel.source).map substitute = (program.inputs ref).map choice := by
    rw [sources_eq, List.map_map]
    exact List.map_congr_left substitute_eq
  have eachSubstitutes : ∀ channel ∈ assembly.inputs,
      (substitute channel.source).Substitutes weights channel.source := by
    intro channel isChannel
    have isSource : channel.source ∈ (program.inputs ref).map former :=
      sources_eq ▸ List.mem_map.mpr ⟨channel, isChannel, rfl⟩
    obtain ⟨input, isInput, same⟩ := List.mem_map.mp isSource
    rw [← same, substitute_eq input isInput]
    exact substitutes input isInput
  obtain ⟨merged, isMerged⟩ := Option.isSome_iff_exists.mp mergeable
  obtain ⟨requirements, isRow, admitted, succeeds⟩ := mem_assemblies_iff.mp isAssembly
  have isSubstituted : assembly.substitute substitute ((enumeration.scope full ref).narrow merged) ∈
      enumeration.assemblies full ref :=
    mem_assemblies_iff.mpr ⟨requirements, isRow, admitted, succeeds_substitute succeeds eachSubstitutes
      (substituted ▸ map_mem_combinations isThere) (substituted ▸ isMerged)⟩
  obtain ⟨number, isCandidate⟩ := stage.exists_mem_of_assembly isDone isSubstituted
  refine ⟨_, isCandidate, ?_, ?_⟩
  · rw [inputs_opened, ← substituted]
    exact map_source_substitute substitute assembly.inputs
  · rw [former_eq]
    exact substitutes_opened (Assembly.instantiate_substitute eachSubstitutes _ _ _ _ _)

/-- Where a candidate dominates another one, and both are built on retained candidates, both deliver the same. -/
def DominatesAlike (weights : Weights Number) (full : Progress Number) (ref : program.Ref) : Prop :=
  ∀ candidate ∈ candidatesOf full ref, ∀ other ∈ candidatesOf full ref,
    Supported weights full ref candidate → Supported weights full ref other →
      candidate.closeBranch.Dominates weights other.closeBranch →
        candidate.globally = other.globally ∧ candidate.locally = other.locally

open Classical in
theorem retained_iff_mem_prune
    {candidate : Candidate Number}
    (isCandidate : candidate ∈ candidatesOf full ref)
    (supports : Supported weights full ref candidate) :
    Retained weights full ref candidate ↔
      candidate.closeBranch ∈ Candidate.prune weights
        (((candidatesOf full ref).filter fun other => decide (Supported weights full ref other)).map
          Candidate.closeBranch) := by
  have isThere : candidate.closeBranch ∈
      ((candidatesOf full ref).filter fun other => decide (Supported weights full ref other)).map
        Candidate.closeBranch :=
    List.mem_map.mpr ⟨candidate, List.mem_filter.mpr ⟨isCandidate, decide_eq_true supports⟩, rfl⟩
  rw [retained_iff, Candidate.mem_prune, List.forall_mem_map]
  simp only [List.mem_filter, decide_eq_true_iff, and_imp]
  exact ⟨fun retained => ⟨isThere, retained.2.2⟩, fun survives => ⟨isCandidate, supports, survives.2⟩⟩

/-- What is built on retained candidates is retained itself, or has a retained substitute. -/
theorem Stage.exists_retained_substitute
    [ExactlyAdded Number]
    (stage : enumeration.unpruned.Stage done full)
    (isDone : ref ∈ done)
    (alike : DominatesAlike weights full ref)
    {candidate : Candidate Number}
    (isCandidate : candidate ∈ candidatesOf full ref)
    (supports : Supported weights full ref candidate) :
    ∃ survivor, Retained weights full ref survivor ∧
      survivor.closeBranch.branchPlan = candidate.closeBranch.branchPlan ∧
        survivor.Substitutes weights candidate := by
  classical
  by_cases retained : Retained weights full ref candidate
  · exact ⟨candidate, retained, rfl, .refl candidate⟩
  · have isThere : candidate.closeBranch ∈
        ((candidatesOf full ref).filter fun other => decide (Supported weights full ref other)).map
          Candidate.closeBranch :=
      List.mem_map.mpr ⟨candidate, List.mem_filter.mpr ⟨isCandidate, decide_eq_true supports⟩, rfl⟩
    rw [retained_iff_mem_prune isCandidate supports] at retained
    obtain ⟨_, survives, dominates⟩ := Candidate.exists_survivor_dominates
      (fun other _ => ExactlyAdded.isDefined _) isThere retained
    obtain ⟨survivor, isKept, rfl⟩ := List.mem_map.mp (Candidate.mem_prune.mp survives).1
    obtain ⟨survivorThere, survivorSupported⟩ := List.mem_filter.mp isKept
    replace survivorSupported := of_decide_eq_true survivorSupported
    obtain ⟨globally_eq, locally_eq⟩ :=
      alike survivor survivorThere candidate isCandidate survivorSupported supports dominates
    obtain ⟨statistics_eq, parallelism_eq⟩ := stage.size_eq isDone survivorThere isCandidate
    obtain ⟨samePlan, _, notDearer, _⟩ := dominates
    exact ⟨survivor, (retained_iff_mem_prune survivorThere survivorSupported).mpr survives, samePlan,
      globally_eq, locally_eq, parallelism_eq, statistics_eq, notDearer⟩

/-- Two candidates of a node that agree on all branches but the node itself rest on the same candidates of these. -/
theorem Stage.eq_of_closeBranch_eq
    (stage : enumeration.Stage done full)
    (isDone : ref ∈ done)
    {first second : Candidate Number}
    (isFirst : first ∈ candidatesOf full ref)
    (isSecond : second ∈ candidatesOf full ref)
    (samePlan : first.closeBranch.branchPlan = second.closeBranch.branchPlan)
    {branch : program.Ref}
    (different : branch ≠ ref)
    (isOpen : enumeration.graph.Open ref branch)
    {one other : Candidate Number}
    (isOne : one ∈ candidatesOf full branch)
    (isOther : other ∈ candidatesOf full branch)
    (restsOnOne : first.RestsOn one)
    (restsOnOther : second.RestsOn other) :
    one = other := by
  have branchDone := stage.mem_of_dependsOn isDone isOpen.depends
  have otherIdentifier : program.identifier branch ≠ program.identifier ref :=
    fun same => different (stage.eq_of_identifier_eq branchDone isDone same)
  have entry : ∀ {candidate below : Candidate Number}, candidate ∈ candidatesOf full ref →
      below ∈ candidatesOf full branch → candidate.RestsOn below →
      candidate.closeBranch.branchPlan.get? (program.identifier branch) = some below.identifier := by
    intro candidate below isCandidate isBelow rests
    have chooses := (stage.chooses_iff isDone branchDone isCandidate).mpr ⟨below, rests, isBelow, rfl⟩
    have found := (stage.exact isDone isCandidate).branchPlan_iff.mpr ⟨⟨branch, rfl, isOpen⟩, chooses⟩
    have isNode : candidate.node.identifier = program.identifier ref := by
      rw [stage.node_eq isDone isCandidate]
      rfl
    rw [Candidate.closeBranch, SortedMap.get?_filterKeys, isNode, found]
    simp [otherIdentifier]
  apply stage.eq_of_choice_eq branchDone isOne isOther
  have foundOne := entry isFirst isOne restsOnOne
  rw [samePlan, entry isSecond isOther restsOnOther] at foundOne
  exact (Option.some.inj foundOne).symm

/-- A candidate on top of an assignment can be exchanged for one that agrees with it on all branches. -/
theorem Assignment.exchange
    (stage : enumeration.Stage (done ++ [ref]) full)
    {former : program.Ref → Candidate Number}
    (assignment : Assignment full done former)
    {candidate survivor : Candidate Number}
    (isCandidate : candidate ∈ candidatesOf full ref)
    (sources_eq : candidate.inputs.map Channel.source = (program.inputs ref).map former)
    (survivorThere : survivor ∈ candidatesOf full ref)
    (samePlan : survivor.closeBranch.branchPlan = candidate.closeBranch.branchPlan) :
    ∃ choice, Assignment full (done ++ [ref]) choice ∧ choice ref = survivor ∧
      ∀ other, other ≠ ref → (program.DependsOn ref other → enumeration.graph.Open ref other) →
        choice other = former other := by
  have isDone : ref ∈ done ++ [ref] := by simp
  obtain ⟨inputsDone, isNew, _⟩ := stage.of_append.inputs_done stage.leading
  obtain ⟨choice, redirects⟩ := exists_redirects stage isDone survivorThere former
  have unchanged : ∀ branch, branch ≠ ref → enumeration.graph.Open ref branch →
      choice branch = former branch := by
    intro branch different isOpen
    obtain ⟨restsOnBranch, branchThere⟩ := redirects.below branch isOpen.depends
    rcases isOpen.depends.eq_or_input with same | ⟨input, isInput, onward⟩
    · exact absurd same different
    · have inputDone := inputsDone input isInput
      have branchDone := stage.of_append.mem_of_dependsOn inputDone onward
      have isSource : former input ∈ candidate.inputs.map Channel.source :=
        sources_eq ▸ List.mem_map.mpr ⟨input, isInput, rfl⟩
      obtain ⟨channel, isChannel, same⟩ := List.mem_map.mp isSource
      have candidateRests : candidate.RestsOn (former branch) :=
        .reads isChannel (same ▸ assignment.restsOn stage.of_append onward inputDone)
      exact stage.eq_of_closeBranch_eq isDone survivorThere isCandidate samePlan different isOpen branchThere
        (assignment.mem branch branchDone) restsOnBranch candidateRests
  refine ⟨choice, redirects.assignment stage survivorThere assignment.mem assignment.sources_eq ?_ isNew unchanged,
    ?_, ?_⟩
  · exact fun other otherDone input isInput => stage.of_append.mem_of_dependsOn otherDone (.ofInput isInput)
  · obtain ⟨restsOnChoice, choiceThere⟩ := redirects.below ref (.self ref)
    exact stage.eq_of_coherentWith (stage.exact isDone survivorThere).coherent isDone choiceThere survivorThere
      restsOnChoice (.self survivor)
  · intro other different openIfBelow
    by_cases depends : program.DependsOn ref other
    · exact unchanged other different (openIfBelow depends)
    · exact redirects.elsewhere other depends

/-- A node is still to be read: it is a sink, or some node that reads it has not been visited. -/
def Awaited (graph : Graph program) (sinks done : List program.Ref) (ref : program.Ref) : Prop :=
  ref ∈ sinks ∨ ∃ consumer ∈ graph.consumers ref, consumer ∉ done

/-- An assignment that has, at the nodes that are still to be read, retained substitutes for another one. -/
structure Exchanged
    (graph : Graph program)
    (weights : Weights Number)
    (full : Progress Number)
    (sinks done : List program.Ref)
    (original choice : program.Ref → Candidate Number) : Prop where
  assignment : Assignment full done choice
  retained : ∀ ref ∈ done, Awaited graph sinks done ref → Retained weights full ref (choice ref)
  substitutes : ∀ ref ∈ done, Awaited graph sinks done ref →
    (choice ref).Substitutes weights (original ref)

/-- What is still to be read after a node is visited was so before, and is open at this node if below it. -/
theorem Awaited.open_of_dependsOn
    {sinks : List program.Ref}
    (stage : enumeration.Stage (done ++ [ref]) full)
    (unread : ∀ sink ∈ sinks, ∀ reader ∈ enumeration.graph.order, sink ∉ program.inputs reader)
    {other : program.Ref}
    (different : other ≠ ref)
    (awaited : Awaited enumeration.graph sinks (done ++ [ref]) other) :
    Awaited enumeration.graph sinks done other ∧
      (program.DependsOn ref other → enumeration.graph.Open ref other) := by
  have isDone : ref ∈ done ++ [ref] := by simp
  rcases awaited with isSink | ⟨consumer, isConsumer, notDone⟩
  · refine ⟨.inl isSink, fun depends => ?_⟩
    rcases depends.eq_or_read with same | ⟨reader, dependsOnReader, isRead⟩
    · exact absurd same different
    · have readerThere := stage.mem_order (stage.mem_of_dependsOn isDone dependsOnReader)
      exact absurd isRead (unread other isSink reader readerThere)
  · refine ⟨.inr ⟨consumer, isConsumer, fun wasDone => notDone (List.mem_append_left _ wasDone)⟩, fun depends => ?_⟩
    -- All consumers of a node that is not open are below the visited one, and so are done.
    apply Classical.byContradiction
    intro notOpen
    exact notDone <| stage.mem_of_dependsOn isDone <|
      stage.wellFormed.dependsOn_consumer_of_not_open (stage.mem_order isDone) depends different notOpen isConsumer

namespace Exchanged

variable {sinks : List program.Ref} {original former : program.Ref → Candidate Number}

/-- The next node has a candidate on what is assigned to its inputs, which is a substitute for its original one. -/
theorem exists_supported
    [ExactlyAdded Number]
    (stage : enumeration.unpruned.Stage (done ++ [ref]) full)
    (originally : Assignment full (done ++ [ref]) original)
    (exchanged : Exchanged enumeration.graph weights full sinks done original former) :
    ∃ candidate ∈ candidatesOf full ref,
      candidate.inputs.map Channel.source = (program.inputs ref).map former ∧
        Supported weights full ref candidate ∧ candidate.Substitutes weights (original ref) := by
  have isDone : ref ∈ done ++ [ref] := by simp
  have earlier : enumeration.unpruned.Stage done full := stage.of_append
  obtain ⟨inputsDone, isNew, isThere⟩ := earlier.inputs_done stage.leading
  have awaited : ∀ input ∈ program.inputs ref, Awaited enumeration.graph sinks done input :=
    fun input isInput => .inr ⟨ref, Graph.mem_consumers.mpr ⟨isThere, isInput⟩, isNew⟩
  have inputsThere : ∀ input ∈ program.inputs ref, former input ∈ candidatesOf full input :=
    fun input isInput => exchanged.assignment.mem input (inputsDone input isInput)
  have mergeable := (earlier.isSome_merge?_iff_coherent (earlier.wellFormed.inputs_separated isThere)
    inputsDone (map_mem_combinations inputsThere)).mpr (exchanged.assignment.coherent earlier inputsDone)
  obtain ⟨candidate, isCandidate, sources_eq, substitutes⟩ := stage.exists_substitute isDone
    (originally.mem ref isDone) (originally.sources_eq ref isDone)
    (fun input isInput => originally.mem input (List.mem_append_left _ (inputsDone input isInput)))
    inputsThere
    (fun input isInput => exchanged.substitutes input (inputsDone input isInput) (awaited input isInput))
    mergeable
  refine ⟨candidate, isCandidate, sources_eq, ?_, substitutes⟩
  intro source isSource
  rw [sources_eq] at isSource
  obtain ⟨input, isInput, rfl⟩ := List.mem_map.mp isSource
  exact ⟨input, isInput, exchanged.retained input (inputsDone input isInput) (awaited input isInput)⟩

theorem visit
    [ExactlyAdded Number]
    (stage : enumeration.unpruned.Stage (done ++ [ref]) full)
    (originally : Assignment full (done ++ [ref]) original)
    (alike : DominatesAlike weights full ref)
    (unread : ∀ sink ∈ sinks, ∀ reader ∈ enumeration.graph.order, sink ∉ program.inputs reader)
    (exchanged : Exchanged enumeration.graph weights full sinks done original former) :
    ∃ choice, Exchanged enumeration.graph weights full sinks (done ++ [ref]) original choice := by
  obtain ⟨_, isNew, _⟩ := stage.of_append.inputs_done stage.leading
  obtain ⟨candidate, isCandidate, sources_eq, supports, substitutes⟩ :=
    exchanged.exists_supported stage originally
  obtain ⟨survivor, retained, samePlan, survivorSubstitutes⟩ :=
    stage.exists_retained_substitute (by simp) alike isCandidate supports
  obtain ⟨choice, assignment, choice_eq, unchanged⟩ := exchanged.assignment.exchange stage isCandidate
    sources_eq (retained_iff.mp retained).1 samePlan
  have each : ∀ other ∈ done ++ [ref], Awaited enumeration.graph sinks (done ++ [ref]) other →
      Retained weights full other (choice other) ∧ (choice other).Substitutes weights (original other) := by
    intro other otherThere awaited
    rcases List.mem_append.mp otherThere with otherDone | isRef
    · have different : other ≠ ref := fun same => isNew (same ▸ otherDone)
      obtain ⟨stillAwaited, openIfBelow⟩ := awaited.open_of_dependsOn stage unread different
      rw [unchanged other different openIfBelow]
      exact ⟨exchanged.retained other otherDone stillAwaited, exchanged.substitutes other otherDone stillAwaited⟩
    · obtain rfl := List.mem_singleton.mp isRef
      rw [choice_eq]
      exact ⟨retained, survivorSubstitutes.trans substitutes⟩
  exact ⟨choice, assignment, fun other otherThere awaited => (each other otherThere awaited).1,
    fun other otherThere awaited => (each other otherThere awaited).2⟩

/-- An assignment for the whole graph can be exchanged for one that has retained substitutes at the sinks. -/
theorem visitAll
    [ExactlyAdded Number]
    {rest : List program.Ref}
    (stage : enumeration.unpruned.Stage (done ++ rest) full)
    (originally : Assignment full (done ++ rest) original)
    (alike : ∀ ref ∈ done ++ rest, DominatesAlike weights full ref)
    (unread : ∀ sink ∈ sinks, ∀ reader ∈ enumeration.graph.order, sink ∉ program.inputs reader)
    (exchanged : Exchanged enumeration.graph weights full sinks done original former) :
    ∃ choice, Exchanged enumeration.graph weights full sinks (done ++ rest) original choice := by
  induction rest generalizing done former with
  | nil => exact ⟨former, by simpa using exchanged⟩
  | cons ref rest inductionHypothesis =>
      have regrouped : done ++ ref :: rest = (done ++ [ref]) ++ rest := by simp
      rw [regrouped] at stage originally alike ⊢
      have originallyThere : Assignment full (done ++ [ref]) original :=
        ⟨fun other isThere => originally.mem other (List.mem_append_left rest isThere),
          fun other isThere => originally.sources_eq other (List.mem_append_left rest isThere)⟩
      obtain ⟨choice, next⟩ := exchanged.visit stage.of_append originallyThere (alike ref (by simp)) unread
      exact inductionHypothesis stage originally alike next

end Exchanged

end Dataflow.Enumeration
