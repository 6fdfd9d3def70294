import Dataflow.Proofs.Candidate.Feasibility

namespace Dataflow

/-!
# Alignment of join keys

A join that repartitions both inputs hashes each of them on its own key list, in the order of that list.  Whether
the inputs fit is checked by the first places of the keys, so the two lists only fit if none of their keys is
compared with several others.
-/

namespace FieldList

variable {left right : FieldList} {one other : Field}

theorem eq_of_position?_eq
    (isPlaced : left.position? one ≠ none)
    (samePlace : left.position? one = left.position? other) :
    one = other := by
  obtain ⟨place, found⟩ := Option.ne_none_iff_exists'.mp isPlaced
  obtain ⟨_, isOne, _⟩ := List.idxOf?_eq_some_iff.mp found
  obtain ⟨_, isOther, _⟩ := List.idxOf?_eq_some_iff.mp (samePlace ▸ found)
  exact isOne.symm.trans isOther

/-- Two fields that stand at the same places of both lists stand there first at the same place. -/
theorem position?_eq_of_zip
    (sameLength : left.length = right.length)
    (samePlaces : ∀ keys ∈ left.zip right, keys.1 = one ↔ keys.2 = other) :
    left.position? one = right.position? other := by
  induction left generalizing right with
  | nil =>
      obtain rfl : right = [] := List.length_eq_zero_iff.mp sameLength.symm
      rfl
  | cons leftKey leftRest inductionHypothesis =>
      obtain ⟨rightKey, rightRest, rfl⟩ : ∃ key rest, right = key :: rest :=
        List.exists_cons_of_length_eq_add_one sameLength.symm
      have sameHere : leftKey = one ↔ rightKey = other := samePlaces (leftKey, rightKey) (.head _)
      have sameInRest : FieldList.position? leftRest one = FieldList.position? rightRest other :=
        inductionHypothesis (Nat.succ.inj sameLength) fun keys isPair => samePlaces keys (.tail _ isPair)
      simp only [position?, List.idxOf?_cons, beq_iff_eq] at sameInRest ⊢
      rw [sameInRest]
      simp only [sameHere]

end FieldList

namespace JoinKeys

/-- Each key is compared with a single key of the other input only. -/
def Aligned (keys : JoinKeys) : Prop :=
  ∀ one ∈ keys.left.zip keys.right, ∀ other ∈ keys.left.zip keys.right, one.1 = other.1 ↔ one.2 = other.2

instance (keys : JoinKeys) : Decidable keys.Aligned :=
  inferInstanceAs (Decidable (∀ one ∈ _, ∀ other ∈ _, _))

/-- The drivers that repartition both inputs of a join. -/
def repartitioningDrivers (keys : JoinKeys) : List Driver :=
  [.repartitionHashJoin keys.left keys.right, .sortMergeJoin keys.left keys.right]

theorem mem_repartitioningDrivers_iff
    {keys : JoinKeys}
    {driver : Driver} :
    driver ∈ keys.repartitioningDrivers ↔
      driver = .repartitionHashJoin keys.left keys.right ∨ driver = .sortMergeJoin keys.left keys.right := by
  simp [repartitioningDrivers]

theorem coPartitioned_iff_aligned
    {keys : JoinKeys}
    {first second : GlobalProperties}
    (firstHashed : first.partitioning = .hash keys.left)
    (secondHashed : second.partitioning = .hash keys.right) :
    Driver.CoPartitioned keys.left keys.right first second ↔ keys.Aligned := by
  simp only [Driver.CoPartitioned, firstHashed, secondHashed]
  constructor
  · rintro ⟨_, samePlaces⟩ one isOne other isOther
    obtain ⟨onePlaced, oneSame⟩ := samePlaces one isOne
    obtain ⟨_, otherSame⟩ := samePlaces other isOther
    constructor
    · intro sameLeft
      apply FieldList.eq_of_position?_eq (oneSame ▸ onePlaced)
      rw [← oneSame, sameLeft, otherSame]
    · intro sameRight
      apply FieldList.eq_of_position?_eq onePlaced
      rw [oneSame, sameRight, ← otherSame]
  · intro aligned
    refine ⟨keys.sameLength, fun pair isPair => ⟨?_, ?_⟩⟩
    · simpa [FieldList.position?] using (List.of_mem_zip isPair).1
    · exact FieldList.position?_eq_of_zip keys.sameLength fun other isOther => aligned other isOther pair isPair

end JoinKeys

namespace ChannelRequest

/-- The request of a join for an input that is hashed on its key list. -/
structure HashesOn (request : ChannelRequest) (keys : FieldList) : Prop where
  nonempty : keys ≠ []
  requested : request.requirement.globally = .hash keys.toSet
  hashKeys : request.hashKeys = some keys
  unforced : request.forced = none
  locally : request.requirement.locally.Establishable

namespace HashesOn

variable {request : ChannelRequest} {keys : FieldList} {globally : GlobalProperties} {parallelism : Nat}

theorem mem_alternatives_iff
    (hashes : request.HashesOn keys)
    {ship : ShipStrategy} :
    ship ∈ request.alternatives globally parallelism ↔
      request.canForward globally parallelism = true ∧ ship = .forward ∨
        ¬ (request.canForward globally parallelism = true ∧ globally.partitioning = .hash keys) ∧
          ship = .partitionHash keys := by
  simp only [alternatives, hashes.unforced, hashes.requested, GlobalRequest.establishingKind,
    GlobalRequest.shipBy?, hashes.hashKeys, GlobalRequest.hashOrder, if_true, Option.toList_some, rehash]
  cases request.canForward globally parallelism <;> by_cases same : globally.partitioning = .hash keys <;>
    simp [same]

theorem isMetBy_partitionHash
    (hashes : request.HashesOn keys) :
    request.requirement.globally.IsMetBy ((ShipStrategy.partitionHash keys).deliver globally) := by
  have someKey := FieldList.isEmpty_toSet_of_ne_nil hashes.nonempty
  have partitioned := GlobalRequest.isPartitionedOn_hash someKey (some keys) globally
  rw [GlobalRequest.hashOrder, if_pos rfl] at partitioned
  simp only [hashes.requested, GlobalRequest.IsMetBy, Bool.or_eq_true]
  exact .inr partitioned

variable {Number : Type} [Arithmetic Number] {source : Candidate Number} {model : CostModel Number}

/-- Either the source is forwarded as it is, or it is hashed on the key list. -/
theorem exists_channel_iff
    (hashes : request.HashesOn keys)
    {partitioning : Partitioning} :
    (∃ channel ∈ source.channels request model, channel.globally.partitioning = partitioning) ↔
      partitioning = .hash keys ∨
        request.canForward source.globally source.parallelism = true ∧
          partitioning = source.globally.partitioning := by
  have byShipping :
      (∃ channel ∈ source.channels request model, channel.globally.partitioning = partitioning) ↔
        ∃ channel ∈ source.channels request model,
          (channel.ship.deliver source.globally).partitioning = partitioning := by
    apply exists_congr
    intro channel
    apply and_congr_right
    intro isChannel
    rw [(Candidate.synthesised_of_mem_channels isChannel).globally_eq]
  rw [byShipping, Candidate.exists_mem_channels_iff fun ship =>
    (ship.deliver source.globally).partitioning = partitioning]
  simp only [hashes.mem_alternatives_iff]
  constructor
  · rintro ⟨ship, ⟨forwardable, rfl⟩ | ⟨_, rfl⟩, rfl, _⟩
    · exact .inr ⟨forwardable, rfl⟩
    · exact .inl rfl
  · have prepared := fun ship : ShipStrategy =>
      exists_prepare? hashes.locally (ship.deliverLocal source.globally source.locally)
    have forwards : request.canForward source.globally source.parallelism = true →
        request.requirement.globally.IsMetBy (ShipStrategy.forward.deliver source.globally) :=
      fun forwardable => (canForward_iff.mp forwardable).2
    rintro (rfl | ⟨forwardable, rfl⟩)
    · by_cases already : request.canForward source.globally source.parallelism = true ∧
          source.globally.partitioning = .hash keys
      · exact ⟨.forward, .inl ⟨already.1, rfl⟩, already.2, forwards already.1, prepared _⟩
      · exact ⟨.partitionHash keys, .inr ⟨already, rfl⟩, rfl, hashes.isMetBy_partitionHash, prepared _⟩
    · exact ⟨.forward, .inl ⟨forwardable, rfl⟩, rfl, forwards forwardable, prepared _⟩

end HashesOn

end ChannelRequest

end Dataflow
