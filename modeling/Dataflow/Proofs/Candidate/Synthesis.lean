import Dataflow.Candidate.Channel

namespace Dataflow

/-!
# Synthesised channels

What holds of every channel that is synthesised for a request, and which requests can always be met.
-/

namespace SortOrder

@[simp]
theorem length_ascending (fields : FieldList) : (ascending fields).length = fields.length := by
  simp [ascending, SortOrder.length]

/-- Sorting by the fields of a set groups by this set. -/
theorem leadingFields?_ascending (fields : FieldSet) :
    (ascending fields.toFieldList).leadingFields? fields.size = some fields := by
  have sameLength : fields.size = fields.toFieldList.length := rfl
  rw [leadingFields?, length_ascending, if_pos (Nat.le_of_eq sameLength), fields_ascending, sameLength,
    List.take_length, FieldSet.toSet_toFieldList]

theorem StartsWith.refl (order : SortOrder) : order.StartsWith order :=
  List.prefix_refl _

end SortOrder

namespace GlobalRequest

/-- Shipping of a kind is shipping of that kind, and is never forwarding. -/
theorem kind_of_shipBy?
    {request : GlobalRequest}
    {keys : Option FieldList}
    {kind : ShipKind}
    {ship : ShipStrategy}
    (shipped : request.shipBy? keys kind = some ship) :
    ship.kind = kind ∧ kind ≠ .forward := by
  cases kind <;> cases request <;>
    simp only [shipBy?, Option.some.injEq, reduceCtorEq] at shipped <;>
    subst shipped <;>
    exact ⟨rfl, by simp⟩

end GlobalRequest

namespace ChannelRequest

/-- A forced kind of shipping is the kind of every alternative. -/
theorem kind_of_mem_alternatives
    {request : ChannelRequest}
    {globally : GlobalProperties}
    {parallelism : Nat}
    {ship : ShipStrategy}
    (member : ship ∈ request.alternatives globally parallelism)
    {kind : ShipKind}
    (forced : request.forced = some kind) :
    ship.kind = kind := by
  unfold alternatives at member
  rw [forced] at member
  cases kind with
  | forward =>
      simp only at member
      split at member
      · rw [List.mem_singleton.mp member]
        rfl
      · exact absurd member (by simp)
  | partitionHash => exact (GlobalRequest.kind_of_shipBy? (by simpa using member)).1
  | partitionRange => exact (GlobalRequest.kind_of_shipBy? (by simpa using member)).1
  | partitionRandom => exact (GlobalRequest.kind_of_shipBy? (by simpa using member)).1
  | broadcast => exact (GlobalRequest.kind_of_shipBy? (by simpa using member)).1

theorem canForward_iff
    {request : ChannelRequest}
    {globally : GlobalProperties}
    {parallelism : Nat} :
    request.canForward globally parallelism = true ↔
      parallelism = request.target ∧ request.requirement.globally.IsMetBy globally := by
  rw [canForward, Bool.and_eq_true, decide_eq_true_iff, decide_eq_true_iff]

theorem canForward_of_forward_mem_alternatives
    {request : ChannelRequest}
    {globally : GlobalProperties}
    {parallelism : Nat}
    (member : ShipStrategy.forward ∈ request.alternatives globally parallelism) :
    request.canForward globally parallelism = true := by
  have notShipped : ∀ {kind : ShipKind},
      request.requirement.globally.shipBy? request.hashKeys kind ≠ some .forward := by
    intro kind shipped
    obtain ⟨sameKind, notForward⟩ := GlobalRequest.kind_of_shipBy? shipped
    exact notForward sameKind.symm
  cases canForward : request.canForward globally parallelism with
  | true => rfl
  | false =>
      exfalso
      unfold alternatives at member
      rw [canForward] at member
      split at member
      · simp at member
      · exact notShipped (by simpa using member)
      · exact notShipped (by simpa using member)

theorem parallelism_eq_of_forward_mem_alternatives
    {request : ChannelRequest}
    {globally : GlobalProperties}
    {parallelism : Nat}
    (member : ShipStrategy.forward ∈ request.alternatives globally parallelism) :
    parallelism = request.target :=
  (canForward_iff.mp (canForward_of_forward_mem_alternatives member)).1

theorem isMetBy_of_prepare?
    {request : ChannelRequest}
    {shipped : LocalProperties}
    {prepared : LocalStrategy × LocalProperties}
    (isPrepared : request.prepare? shipped = some prepared) :
    request.requirement.locally.IsMetBy prepared.2 := by
  unfold prepare? at isPrepared
  split at isPrepared
  · rename_i alreadyMet
    obtain rfl := Option.some.inj isPrepared
    exact alreadyMet
  · simp only at isPrepared
    split at isPrepared
    all_goals
      split at isPrepared
      · rename_i metNow
        obtain rfl := Option.some.inj isPrepared
        exact metNow
      · exact absurd isPrepared (by simp)

end ChannelRequest

namespace Candidate

variable {Number : Type} [Arithmetic Number]

/-- The facts about a channel that has been synthesised from a source for a request. -/
structure Synthesised
    (request : ChannelRequest)
    (source : Candidate Number)
    (channel : Channel Number (Candidate Number)) : Prop where
  source_eq : channel.source = source
  shipped : channel.ship ∈ request.alternatives source.globally source.parallelism
  globally_eq : channel.globally = channel.ship.deliver source.globally
  replication_eq : channel.replication = channel.ship.replication request.target
  prepared_eq : request.prepare? (channel.ship.deliverLocal source.globally source.locally) =
    some (channel.preparation, channel.locally)
  globallyMet : request.requirement.globally.IsMetBy channel.globally
  locallyMet : request.requirement.locally.IsMetBy channel.locally

theorem synthesised_of_mem_channels
    {request : ChannelRequest}
    {source : Candidate Number}
    {model : CostModel Number}
    {channel : Channel Number (Candidate Number)}
    (member : channel ∈ source.channels request model) :
    Synthesised request source channel := by
  obtain ⟨ship, isAlternative, isChannel⟩ := List.mem_filterMap.mp member
  unfold channelBy? at isChannel
  simp only at isChannel
  split at isChannel
  · rename_i globallyMet
    split at isChannel
    · rename_i preparation locally isPrepared
      obtain rfl := Option.some.inj isChannel
      exact ⟨rfl, isAlternative, rfl, rfl, isPrepared, globallyMet,
        ChannelRequest.isMetBy_of_prepare? isPrepared⟩
    · exact absurd isChannel (by simp)
  · exact absurd isChannel (by simp)

/--
A way of shipping leads to a channel when it is tried, meets the global request, and leaves data that can be
prepared for the local one.
-/
theorem exists_mem_channels_iff
    (Condition : ShipStrategy → Prop)
    {request : ChannelRequest}
    {source : Candidate Number}
    {model : CostModel Number} :
    (∃ channel ∈ source.channels request model, Condition channel.ship) ↔
      ∃ ship ∈ request.alternatives source.globally source.parallelism, Condition ship ∧
        request.requirement.globally.IsMetBy (ship.deliver source.globally) ∧
          ∃ prepared,
            request.prepare? (ship.deliverLocal source.globally source.locally) = some prepared := by
  constructor
  · rintro ⟨channel, isChannel, holds⟩
    have synthesised := synthesised_of_mem_channels isChannel
    exact ⟨channel.ship, synthesised.shipped, holds, synthesised.globally_eq ▸ synthesised.globallyMet,
      _, synthesised.prepared_eq⟩
  · rintro ⟨ship, isAlternative, holds, globallyMet, prepared, isPrepared⟩
    have isChannel : source.channelBy? request model ship = some
        { source
          ship
          preparation := prepared.1
          globally := ship.deliver source.globally
          locally := prepared.2
          replication := ship.replication request.target
          cost :=
            model.shipCost ship source.statistics request.target +
              model.localCost prepared.1 source.statistics } := by
      rw [channelBy?, if_pos globallyMet, isPrepared]
    exact ⟨_, List.mem_filterMap.mpr ⟨ship, isAlternative, isChannel⟩, holds⟩

end Candidate

end Dataflow
