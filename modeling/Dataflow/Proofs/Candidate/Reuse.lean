import Dataflow.Proofs.Candidate.Mentions
import Dataflow.Proofs.Candidate.Synthesis
import Dataflow.Search.Attempt

namespace Dataflow

/-!
# Reductions on top of reductions

Where a reduction preserves its keys, its groups stay together: they are in one partition, and each of them is a
single record there.  A further reduction on these keys and others needs nothing more, so that it reads this result
where it is and as it is, in whatever way the first reduction came by its input.
-/

namespace GlobalRequest

/-- Records that agree on more fields agree on fewer. -/
theorem IsMetBy.any_mono
    {fields wider : FieldSet}
    (contains : fields ⊆ wider)
    {delivered : GlobalProperties}
    (met : (GlobalRequest.any fields).IsMetBy delivered) :
    (GlobalRequest.any wider).IsMetBy delivered := by
  rcases Bool.or_eq_true_iff.mp met with replicated | partitioned
  · exact Bool.or_eq_true_iff.mpr (.inl replicated)
  · obtain ⟨deciding, isDeciding, someField, smaller⟩ := GlobalProperties.isPartitionedOn_iff.mp partitioned
    have partitionedOnMore : delivered.isPartitionedOn wider = true :=
      GlobalProperties.isPartitionedOn_iff.mpr
        ⟨deciding, isDeciding, someField, SortedSet.subset_trans smaller contains⟩
    exact Bool.or_eq_true_iff.mpr (.inr partitionedOnMore)

end GlobalRequest

namespace NodeContext

variable {Number : Type} {context : NodeContext Number} {keys : FieldSet} {combinable : Bool}

theorem subset_retained
    {input : Nat}
    (preserves : ∀ field ∈ keys, context.node.operator.Preserves input field) :
    keys ⊆ context.retained input := by
  intro field isKey
  obtain ⟨fields, declared, isField⟩ := preserves field isKey
  rwa [retained, declared]

/-- A reduction that preserves its keys keeps the partitioning that it requires. -/
theorem any_isMetBy_outputGlobal
    (callsFunction : context.node.operator.CallsFunction)
    (keysRetained : keys ⊆ context.retained 0)
    {delivered : GlobalProperties}
    (met : (GlobalRequest.any keys).IsMetBy delivered) :
    (GlobalRequest.any keys).IsMetBy (context.outputGlobal (.sortedReduce keys combinable) [delivered]) := by
  have retains : (GlobalRequest.any keys).IsMetBy (delivered.retain (context.retained 0)) := met.retain keysRetained
  refine retains.of_partitioning_eq ?_
  rw [outputGlobal_eq, derivedGlobal_eq callsFunction]
  rfl

/-- A reduction that preserves its keys leaves one record for each of their values. -/
theorem mem_uniqueSets_outputLocal
    (callsFunction : context.node.operator.CallsFunction)
    (keysRetained : keys ⊆ context.retained 0)
    (delivered : List LocalProperties) :
    keys ∈ (context.outputLocal (.sortedReduce keys combinable) delivered).uniqueSets := by
  rw [outputLocal_eq, derivedLocal_eq callsFunction]
  refine SortedSet.mem_union.mpr (.inl (SortedSet.mem_filter.mpr ⟨?_, decide_eq_true keysRetained⟩))
  exact SortedSet.mem_insert.mpr (.inl rfl)

end NodeContext

namespace Candidate

variable {Number : Type} [Arithmetic Number]

/-- Data that meets a request already is forwarded as it is, unless the order of the keys matters. -/
theorem channels_eq_forward
    {source : Candidate Number}
    {request : ChannelRequest}
    (unforced : request.forced = none)
    (anyOrder : request.hashKeys = none)
    (sameParallelism : source.parallelism = request.target)
    (globallyMet : request.requirement.globally.IsMetBy source.globally)
    (locallyMet : request.requirement.locally.IsMetBy source.locally)
    (model : CostModel Number) :
    source.channels request model =
      [{ source
         ship := .forward
         preparation := .none
         globally := source.globally
         locally := source.locally
         replication := 1
         cost :=
           model.shipCost .forward source.statistics request.target +
             model.localCost .none source.statistics }] := by
  have forwardable := ChannelRequest.canForward_iff.mpr ⟨sameParallelism, globallyMet⟩
  have onlyForward : request.alternatives source.globally source.parallelism = [.forward] := by
    simp [ChannelRequest.alternatives, unforced, forwardable, ChannelRequest.rehash, anyOrder]
  have nothingMissing : request.prepare? source.locally = some (.none, source.locally) := if_pos locallyMet
  have isChannel : source.channelBy? request model .forward = some
      { source
        ship := .forward
        preparation := .none
        globally := source.globally
        locally := source.locally
        replication := 1
        cost :=
          model.shipCost .forward source.statistics request.target +
            model.localCost .none source.statistics } := by
    simp only [channelBy?, ShipStrategy.deliver, ShipStrategy.deliverLocal, nothingMissing]
    exact if_pos globallyMet
  rw [channels, onlyForward, List.filterMap_cons_some isChannel, List.filterMap_nil]

/--
What a reduction makes of a channel that meets its requirement is read by every further reduction on its keys and
others, if these are preserved and the parallelism stays: there is one channel, which forwards the candidate without
preparing it and delivers its properties.
-/
theorem channels_of_reduced
    {context : NodeContext Number}
    {keys : FieldSet}
    {combinable : Bool}
    {preserved : Option FieldSet}
    (isReduce : context.node.operator = .reduce keys combinable preserved)
    (preserves : ∀ field ∈ keys, context.node.operator.Preserves 0 field)
    {row : List InputRequirement}
    (isRow : row ∈ (Driver.sortedReduce keys combinable).requirements)
    {request : ChannelRequest}
    (isRequirement : request.requirement ∈ row)
    {source : Candidate Number}
    {model : CostModel Number}
    {channel : Channel Number (Candidate Number)}
    (isChannel : channel ∈ source.channels request model)
    (branchPlan : BranchPlan)
    (identifier : Nat)
    {later : AttemptScope Number}
    (unforced : later.context.node.restrictions.shipping.get? 0 = none)
    (sameParallelism : context.parallelism = later.context.parallelism)
    {wider : FieldSet}
    (contains : keys ⊆ wider)
    {combines : Bool}
    {laterRow : List InputRequirement}
    (isLaterRow : laterRow ∈ (Driver.sortedReduce wider combines).requirements)
    {requirement : InputRequirement}
    (isLaterRequirement : requirement ∈ laterRow) :
    let reduced : Assembly Number :=
      { driver := .sortedReduce keys combinable, inputs := [channel], branchPlan }
    let candidate := reduced.instantiate context model identifier
    ∀ survivor, survivor = candidate ∨ survivor = candidate.openBranch →
      ∃ forwarded,
        survivor.channels (later.request (.sortedReduce wider combines) 0 requirement) later.model = [forwarded] ∧
          forwarded.source = survivor ∧ forwarded.ship = .forward ∧ forwarded.preparation = .none ∧
          forwarded.globally = candidate.globally ∧ forwarded.locally = candidate.locally := by
  intro reduced candidate survivor isSurvivor
  obtain rfl := List.mem_singleton.mp isRow
  obtain rfl := List.mem_singleton.mp isLaterRow
  obtain rfl := List.mem_singleton.mp isLaterRequirement
  have requested : request.requirement = ⟨.any keys, .groupedBy keys⟩ := List.mem_singleton.mp isRequirement
  have callsFunction : context.node.operator.CallsFunction := isReduce ▸ trivial
  have keysRetained := NodeContext.subset_retained preserves
  have channelMet : (GlobalRequest.any keys).IsMetBy channel.globally := by
    have met := (synthesised_of_mem_channels isChannel).globallyMet
    rwa [requested] at met
  have globallyMet : (GlobalRequest.any wider).IsMetBy candidate.globally :=
    (NodeContext.any_isMetBy_outputGlobal callsFunction keysRetained channelMet).any_mono contains
  have grouped : candidate.locally.IsGroupedOn wider :=
    .inr (.inr ⟨keys, NodeContext.mem_uniqueSets_outputLocal callsFunction keysRetained _, contains⟩)
  have locallyMet : (LocalRequest.groupedBy wider).IsMetBy candidate.locally :=
    LocalRequest.isMetBy_groupedBy.mpr grouped
  rcases isSurvivor with rfl | rfl
  · exact ⟨_, channels_eq_forward unforced rfl sameParallelism globallyMet locallyMet later.model,
      rfl, rfl, rfl, rfl, rfl⟩
  · exact ⟨_, channels_eq_forward unforced rfl sameParallelism globallyMet locallyMet later.model,
      rfl, rfl, rfl, rfl, rfl⟩

/--
A reduction by two fields reads data in ranges of one of them, which it sorts and aggregates.  A reduction by three
fields, these two among them, reads the result as it is.
-/
theorem channels_of_reduced_ranged :
    let keys : FieldSet := .ofList [0, 1]
    let wider : FieldSet := .ofList [0, 1, 2]
    let source : Candidate WholeNumber := .scan 0 (.range ⟨[⟨1, .descending⟩]⟩ none) 1
    let request : ChannelRequest := { requirement := ⟨.any keys, .groupedBy keys⟩, combinable := true }
    let context : NodeContext WholeNumber :=
      { node := { identifier := 1, name := "totals", operator := .reduce keys true (some keys), inputs := [0] }
        parallelism := 1
        statistics := {} }
    let later : AttemptScope WholeNumber :=
      { context :=
          { node := { identifier := 2, name := "shares", operator := .reduce wider false none, inputs := [1] }
            parallelism := 1
            statistics := {} }
        model := .default
        closes := fun _ => true
        inputs := [] }
    ((source.channels request .default).map fun channel => (channel.ship, channel.preparation)) =
        [(.forward, .combiningSort (.ascending [0, 1]))] ∧
      ∀ channel ∈ source.channels request .default,
        let reduced : Assembly WholeNumber := { driver := .sortedReduce keys true, inputs := [channel] }
        let candidate := reduced.instantiate context .default 1
        ∃ forwarded,
          candidate.openBranch.channels
              (later.request (.sortedReduce wider false) 0 ⟨.any wider, .groupedBy wider⟩) .default = [forwarded] ∧
            forwarded.ship = .forward ∧ forwarded.preparation = .none := by
  intro keys wider source request context later
  refine ⟨by decide, fun channel isChannel => ?_⟩
  have preserves : ∀ field ∈ keys, context.node.operator.Preserves 0 field :=
    fun field isKey => ⟨keys, rfl, isKey⟩
  obtain ⟨forwarded, only, _, ship, preparation, _, _⟩ :=
    @channels_of_reduced WholeNumber _ context keys true (some keys) rfl preserves _ (.head _) request (.head _)
      source .default channel isChannel .empty 1 later rfl rfl wider (by decide) false _ (.head _) _ (.head _)
      _ (.inr rfl)
  exact ⟨forwarded, only, ship, preparation⟩

end Candidate

end Dataflow
