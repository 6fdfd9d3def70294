import Dataflow.Proofs.Optimizer.Outcome
import Dataflow.Proofs.Optimizer.Tracking

namespace Dataflow.Optimizer

/-!
# Validity of physical plans

A plan that the optimizer returns has each node below the sinks once and after its inputs, executed by an
admitted driver on channels from the candidates chosen for its inputs, which deliver what this driver
requires.
-/

variable {Number : Type} [Arithmetic Number]
variable {optimizer : Optimizer Number} {plan : Plan Number} {graph : Graph plan.program}

/-- The number of partitions in which a node of a plan is executed. -/
def parallelism (optimizer : Optimizer Number) (plan : Plan Number) (ref : plan.program.Ref) : Nat :=
  (plan.program.node ref).parallelism.getD
    (plan.job.defaultParallelism.getD optimizer.config.defaultParallelism)

/-- A candidate executes a node as its operator, its restrictions and its own driver demand. -/
structure Executes
    (optimizer : Optimizer Number)
    (plan : Plan Number)
    (ref : plan.program.Ref)
    (candidate : Candidate Number) : Prop where
  node_eq : candidate.node = plan.program.node ref
  parallelism_eq : candidate.parallelism = optimizer.parallelism plan ref
  driver_mem : candidate.driver ∈ (plan.program.node ref).operator.drivers
  admitted : (plan.program.node ref).restrictions.admits candidate.driver.kind = true
  /-- Shipping that is forced on an input is used there. -/
  forced : ∀ (input : Nat) (channel : Channel Number (Candidate Number)) (kind : ShipKind),
    candidate.inputs[input]? = some channel →
    (plan.program.node ref).restrictions.shipping.get? input = some kind →
    channel.ship.kind = kind
  /-- Forwarding does not change the number of partitions. -/
  forwarded : ∀ channel ∈ candidate.inputs,
    channel.ship = .forward → channel.source.parallelism = candidate.parallelism
  replication_eq : ∀ channel ∈ candidate.inputs,
    channel.replication = if channel.ship = .broadcast then candidate.parallelism else 1
  /-- The channels deliver the properties of their sources as far as these survive the shipping. -/
  delivered : ∀ channel ∈ candidate.inputs,
    channel.globally = channel.ship.deliver channel.source.globally
  /--
  Some row of requirements of the driver is met, with one requirement for each channel.  The local properties
  are those of the shipped data after the preparation for its requirement.
  -/
  requirements : ∃ row ∈ candidate.driver.requirements,
    row.length = candidate.inputs.length ∧
      ∀ (input : Nat) (channel : Channel Number (Candidate Number)) (requirement : InputRequirement),
        candidate.inputs[input]? = some channel →
        row[input]? = some requirement →
        requirement.globally.IsMetBy channel.globally ∧ requirement.locally.IsMetBy channel.locally ∧
          ∃ request : ChannelRequest, request.requirement = requirement ∧
            request.prepare? (channel.ship.deliverLocal channel.source.globally channel.source.locally) =
              some (channel.preparation, channel.locally)
  compatible : candidate.driver.IsCompatible (candidate.inputs.map Channel.globally)

/-- The nodes of a physical plan are those below the sinks, each executed by the chosen candidate. -/
structure Realises
    (optimizer : Optimizer Number)
    (plan : Plan Number)
    (physical : PhysicalPlan Number)
    (order : List plan.program.Ref)
    (chosen : plan.program.Ref → Candidate Number) : Prop where
  mem_order : ∀ ref, ref ∈ order ↔ ∃ sink ∈ plan.sinks, plan.program.DependsOn sink ref
  inputsFirst : Program.InputsFirst order
  nodes_eq : physical.nodes = order.map fun ref => PhysicalNode.ofCandidate (chosen ref)
  sinks_eq : physical.sinks = plan.sinks.map plan.program.identifier
  find?_eq : ∀ ref ∈ order,
    physical.find? (plan.program.identifier ref) = some (PhysicalNode.ofCandidate (chosen ref))
  executes : ∀ ref ∈ order, optimizer.Executes plan ref (chosen ref)
  /-- There is one channel for each input, in their order, from the candidate chosen for the input. -/
  sources_eq : ∀ ref ∈ order,
    (chosen ref).inputs.map Channel.source = (plan.program.inputs ref).map chosen

theorem executes_of_produced
    {progress : Progress Number}
    {ref : plan.program.Ref}
    {candidate : Candidate Number}
    (produced : (optimizer.enumeration plan graph).Produced progress ref candidate) :
    optimizer.Executes plan ref candidate := by
  obtain ⟨row, isRow, met⟩ := produced.row
  have inDrivers := List.mem_filter.mp produced.admitted
  have rowLength : row.length = candidate.inputs.length := by
    rw [← Enumeration.length_inputs_eq produced.admitted isRow]
    have sameLength := length_of_mem_combinations produced.sources
    simpa using sameLength.symm
  have synthesised : ∀ (input : Nat) (channel : Channel Number (Candidate Number)),
      candidate.inputs[input]? = some channel →
      ∃ requirement, row[input]? = some requirement ∧
        Candidate.Synthesised
          (((optimizer.enumeration plan graph).scope progress ref).request candidate.driver input requirement)
          channel.source channel := by
    intro input channel isChannel
    obtain ⟨inInputs, _⟩ := List.getElem?_eq_some_iff.mp isChannel
    have isRequirement := List.getElem?_eq_getElem (rowLength ▸ inInputs : input < row.length)
    exact ⟨row[input], isRequirement,
      Candidate.synthesised_of_mem_channels (met input channel _ isChannel isRequirement)⟩
  have synthesisedOf : ∀ channel ∈ candidate.inputs, ∃ input requirement,
      Candidate.Synthesised
        (((optimizer.enumeration plan graph).scope progress ref).request candidate.driver input requirement)
        channel.source channel := by
    intro channel isChannel
    obtain ⟨input, atInput⟩ := List.mem_iff_getElem?.mp isChannel
    obtain ⟨requirement, _, channelSynthesised⟩ := synthesised input channel atInput
    exact ⟨input, requirement, channelSynthesised⟩
  refine ⟨produced.node_eq, produced.parallelism_eq, inDrivers.1, inDrivers.2, ?_, ?_, ?_, ?_, ?_,
    produced.compatible⟩
  · intro input channel kind isChannel isForced
    obtain ⟨requirement, _, channelSynthesised⟩ := synthesised input channel isChannel
    exact ChannelRequest.kind_of_mem_alternatives channelSynthesised.shipped isForced
  · intro channel isChannel isForward
    obtain ⟨input, requirement, channelSynthesised⟩ := synthesisedOf channel isChannel
    rw [produced.parallelism_eq]
    exact ChannelRequest.parallelism_eq_of_forward_mem_alternatives
      (isForward ▸ channelSynthesised.shipped)
  · intro channel isChannel
    obtain ⟨input, requirement, channelSynthesised⟩ := synthesisedOf channel isChannel
    rw [channelSynthesised.replication_eq, produced.parallelism_eq]
    cases channel.ship <;> rfl
  · intro channel isChannel
    obtain ⟨input, requirement, channelSynthesised⟩ := synthesisedOf channel isChannel
    exact channelSynthesised.globally_eq
  · refine ⟨row, isRow, rowLength, ?_⟩
    intro input channel requirement isChannel isRequirement
    have channelSynthesised :=
      Candidate.synthesised_of_mem_channels (met input channel requirement isChannel isRequirement)
    exact ⟨channelSynthesised.globallyMet, channelSynthesised.locallyMet, _, rfl,
      channelSynthesised.prepared_eq⟩

theorem Executes.opened
    {ref : plan.program.Ref}
    {candidate : Candidate Number}
    (executes : optimizer.Executes plan ref candidate)
    (identifier : Nat) :
    optimizer.Executes plan ref ((optimizer.enumeration plan graph).opened identifier candidate) := by
  unfold Enumeration.opened
  split
  · exact ⟨executes.node_eq, executes.parallelism_eq, executes.driver_mem, executes.admitted,
      executes.forced, executes.forwarded, executes.replication_eq, executes.delivered,
      executes.requirements, executes.compatible⟩
  · exact executes

theorem filterMap_eq_map_of_eq_some
    {Item Result : Type}
    {items : List Item}
    {result? : Item → Option Result}
    {result : Item → Result}
    (each : ∀ item ∈ items, result? item = some (result item)) :
    items.filterMap result? = items.map result := by
  induction items with
  | nil => rfl
  | cons item rest inductionHypothesis =>
      rw [List.filterMap_cons_some (each item (.head rest)), List.map_cons,
        inductionHypothesis fun other isOther => each other (.tail item isOther)]

omit [Arithmetic Number] in
theorem find?_eq_of_nodes_eq
    {physical : PhysicalPlan Number}
    {order : List plan.program.Ref}
    {chosen : plan.program.Ref → Candidate Number}
    (apart : plan.program.IdentifiersApart order)
    (nodes_eq : physical.nodes = order.map fun ref => PhysicalNode.ofCandidate (chosen ref))
    (node_eq : ∀ ref ∈ order, (chosen ref).node = plan.program.node ref)
    {ref : plan.program.Ref}
    (isThere : ref ∈ order) :
    physical.find? (plan.program.identifier ref) = some (PhysicalNode.ofCandidate (chosen ref)) := by
  have identifier_eq : ∀ other ∈ order,
      (PhysicalNode.ofCandidate (chosen other)).identifier = plan.program.identifier other := by
    intro other isOther
    rw [PhysicalNode.ofCandidate, node_eq other isOther]
    rfl
  rw [PhysicalPlan.find?, nodes_eq]
  cases found : (order.map fun ref => PhysicalNode.ofCandidate (chosen ref)).find? fun node =>
      node.identifier == plan.program.identifier ref with
  | none =>
      have absent := List.find?_eq_none.mp found _ (List.mem_map.mpr ⟨ref, isThere, rfl⟩)
      simp [identifier_eq ref isThere] at absent
  | some node =>
      obtain ⟨other, isOther, rfl⟩ := List.mem_map.mp (List.mem_of_find?_eq_some found)
      have sameIdentifier : plan.program.identifier other = plan.program.identifier ref := by
        rw [← identifier_eq other isOther]
        simpa using List.find?_some found
      rw [apart other isOther ref isThere sameIdentifier]

/-- What has been collected below the sinks is a physical plan. -/
theorem realises_of_collected
    {progress : Progress Number}
    (accepted : Graph.ofSinks plan.program plan.sinks = .ok graph)
    (stage : (optimizer.enumeration plan graph).Stage graph.order progress)
    {roots collected : List (Candidate Number)}
    (isChoice : roots ∈ combinations (sinkCandidates plan progress))
    (walked : roots.reverse.foldlM Candidate.collect [] = .ok collected)
    (default : Candidate Number) :
    optimizer.Realises plan
      { job := plan.job
        nodes := ((graph.order.map plan.program.identifier).filterMap fun identifier =>
          collected.find? fun candidate => candidate.node.identifier == identifier).map
            PhysicalNode.ofCandidate
        sinks := roots.map fun candidate => candidate.node.identifier }
      graph.order
      (Enumeration.Stage.chosenFor plan.program collected default) := by
  have sinksThere := Graph.mem_order_of_mem_sinks accepted
  have explored : ∀ root ∈ roots, Enumeration.Stage.Explored progress graph.order root := by
    intro root isRoot
    obtain ⟨sink, isSink, isThere⟩ := (mem_of_mem_combinations_map isChoice).1 root isRoot
    exact ⟨sink, sinksThere sink isSink, isThere⟩
  obtain ⟨isCollected, rootsCollected⟩ := stage.collected_of_walked explored walked
  have chosen_eq : ∀ ref ∈ graph.order, ∀ candidate ∈ Enumeration.candidatesOf progress ref,
      candidate ∈ collected → Enumeration.Stage.chosenFor plan.program collected default ref = candidate := by
    intro ref isThere candidate isCandidate member
    rw [Enumeration.Stage.chosenFor, isCollected.find?_eq stage isThere member isCandidate]
    rfl
  have exists_chosen : ∀ ref ∈ graph.order,
      ∃ candidate ∈ collected, candidate ∈ Enumeration.candidatesOf progress ref := by
    intro ref isThere
    obtain ⟨sink, isSink, depends⟩ := (Graph.mem_order_of_ofSinks accepted).mp isThere
    obtain ⟨root, isRoot, rootThere⟩ := (mem_of_mem_combinations_map isChoice).2 sink isSink
    exact isCollected.exists_of_dependsOn stage (sinksThere sink isSink) (rootsCollected root isRoot)
      rootThere depends
  have node_eq : ∀ ref ∈ graph.order,
      (Enumeration.Stage.chosenFor plan.program collected default ref).node = plan.program.node ref := by
    intro ref isThere
    obtain ⟨candidate, member, isCandidate⟩ := exists_chosen ref isThere
    rw [chosen_eq ref isThere candidate isCandidate member]
    exact stage.node_eq isThere isCandidate
  have nodes_eq : ((graph.order.map plan.program.identifier).filterMap fun identifier =>
      collected.find? fun candidate => candidate.node.identifier == identifier) =
        graph.order.map (Enumeration.Stage.chosenFor plan.program collected default) := by
    rw [List.filterMap_map]
    apply filterMap_eq_map_of_eq_some
    intro ref isThere
    obtain ⟨candidate, member, isCandidate⟩ := exists_chosen ref isThere
    show (collected.find? fun other => other.node.identifier == plan.program.identifier ref) = some _
    rw [chosen_eq ref isThere candidate isCandidate member,
      isCollected.find?_eq stage isThere member isCandidate]
  have physicalNodes_eq : ((graph.order.map plan.program.identifier).filterMap fun identifier =>
      collected.find? fun candidate => candidate.node.identifier == identifier).map
        PhysicalNode.ofCandidate = graph.order.map fun ref =>
          PhysicalNode.ofCandidate (Enumeration.Stage.chosenFor plan.program collected default ref) := by
    rw [nodes_eq, List.map_map]
    rfl
  refine ⟨fun ref => Graph.mem_order_of_ofSinks accepted, stage.wellFormed.inputsFirst,
    physicalNodes_eq, ?_, ?_, ?_, ?_⟩
  · apply map_eq_map_of_mem_combinations isChoice
    intro sink isSink root isThere _
    rw [stage.node_eq (sinksThere sink isSink) isThere]
    rfl
  · exact fun ref isThere =>
      find?_eq_of_nodes_eq stage.wellFormed.apart physicalNodes_eq node_eq isThere
  · intro ref isThere
    obtain ⟨candidate, member, isCandidate⟩ := exists_chosen ref isThere
    rw [chosen_eq ref isThere candidate isCandidate member]
    obtain ⟨original, produced, rfl⟩ := stage.exists_produced isThere isCandidate
    exact (executes_of_produced produced).opened _
  · intro ref isThere
    obtain ⟨candidate, member, isCandidate⟩ := exists_chosen ref isThere
    rw [chosen_eq ref isThere candidate isCandidate member, ← List.map_id (candidate.inputs.map _)]
    apply map_eq_map_of_mem_combinations (stage.sources_mem isThere isCandidate)
    intro input isInput source sourceThere isSource
    have inputThere := stage.mem_of_dependsOn isThere (.ofInput isInput)
    exact (chosen_eq input inputThere source sourceThere
      (isCollected.closed candidate member source isSource)).symm

end Dataflow.Optimizer
