import Dataflow.Proofs.Candidate.Feasibility
import Dataflow.Proofs.Data.Repartitioning
import Dataflow.Proofs.WholeNumber

namespace Dataflow

/-!
# Channels from replicated data

A replicated source has the same records in all partitions, and repartitioning delivers every one of these
copies.  A channel that does so nevertheless tells of an ordinary data set with the unique fields of the source.
The main theorem says which requests lead to such a channel.
-/

/-- Shipping of this kind assigns the records to partitions anew. -/
def ShipKind.Repartitions : ShipKind → Prop
  | .partitionHash => True
  | .partitionRange => True
  | .partitionRandom => True
  | .forward => False
  | .broadcast => False

instance (kind : ShipKind) : Decidable kind.Repartitions := by
  unfold ShipKind.Repartitions
  split <;> infer_instance

namespace ShipStrategy

variable {ship : ShipStrategy}

theorem partitioning_deliver_ne_replicated
    (repartitions : ship.kind.Repartitions)
    (source : GlobalProperties) :
    (ship.deliver source).partitioning ≠ .replicated := by
  cases ship with
  | forward => exact absurd repartitions id
  | broadcast => exact absurd repartitions id
  | partitionHash fields => exact Partitioning.noConfusion
  | partitionRange order histogram => exact Partitioning.noConfusion
  | partitionRandom => exact Partitioning.noConfusion

theorem uniqueSets_deliver
    (repartitions : ship.kind.Repartitions)
    (source : GlobalProperties) :
    (ship.deliver source).uniqueSets = source.uniqueSets := by
  cases ship with
  | forward => rfl
  | broadcast => exact absurd repartitions id
  | partitionHash fields => rfl
  | partitionRange order histogram => rfl
  | partitionRandom => rfl

theorem deliverLocal_eq
    (repartitions : ship.kind.Repartitions)
    (globally : GlobalProperties)
    (locally : LocalProperties) :
    ship.deliverLocal globally locally = { uniqueSets := globally.uniqueSets } := by
  cases ship with
  | forward => exact absurd repartitions id
  | broadcast => rfl
  | partitionHash fields => rfl
  | partitionRange order histogram => rfl
  | partitionRandom => rfl

end ShipStrategy

namespace GlobalRequest

variable {request : GlobalRequest}

theorem isMetBy_of_replicated
    {delivered : GlobalProperties}
    (replicated : delivered.isReplicated = true) :
    request.IsMetBy delivered := by
  simp [IsMetBy, replicated]

theorem isMetBy_withPartitioning
    {partitioning : Partitioning}
    {properties : GlobalProperties} :
    request.IsMetBy (properties.withPartitioning partitioning) ↔ request.IsMetBy { partitioning } := by
  have same : (properties.withPartitioning partitioning).partitioning = partitioning := rfl
  exact ⟨IsMetBy.of_partitioning_eq same.symm, IsMetBy.of_partitioning_eq same⟩

/-- What is shipped by an explicit repartitioning meets the request unless that names no field. -/
theorem isMetBy_shipBy?_iff
    {keys : Option FieldList}
    {kind : ShipKind}
    {ship : ShipStrategy}
    (shipped : request.shipBy? keys kind = some ship)
    (repartitions : kind.Repartitions)
    (source : GlobalProperties) :
    request.IsMetBy (ship.deliver source) ↔ request.Establishable := by
  cases kind <;> cases request <;>
    simp only [shipBy?, Option.some.injEq, reduceCtorEq, ShipKind.Repartitions] at shipped repartitions <;>
    subst shipped <;>
    simp [IsMetBy, metByPartitioning, Establishable, ShipStrategy.deliver, GlobalProperties.withPartitioning,
      GlobalProperties.isReplicated, GlobalProperties.isPartitionedOn, Partitioning.fields?, toSet_hashOrder,
      SortOrder.fieldSet, SortedSet.subset_def]

/-- Some way of shipping of a kind repartitions and meets the request. -/
theorem exists_repartitioning_iff
    {keys : Option FieldList}
    {kind : ShipKind}
    (source : GlobalProperties) :
    (∃ ship, request.shipBy? keys kind = some ship ∧ ship.kind.Repartitions ∧
        request.IsMetBy (ship.deliver source)) ↔
      kind.Repartitions ∧ (request.shipBy? keys kind).isSome ∧ request.Establishable := by
  constructor
  · rintro ⟨ship, shipped, repartitions, met⟩
    rw [(kind_of_shipBy? shipped).1] at repartitions
    exact ⟨repartitions, Option.isSome_of_eq_some shipped,
      (isMetBy_shipBy?_iff shipped repartitions source).mp met⟩
  · rintro ⟨repartitions, isShipped, establishable⟩
    obtain ⟨ship, shipped⟩ := Option.isSome_iff_exists.mp isShipped
    obtain ⟨sameKind, _⟩ := kind_of_shipBy? shipped
    exact ⟨ship, shipped, sameKind ▸ repartitions,
      (isMetBy_shipBy?_iff shipped repartitions source).mpr establishable⟩

/-- Every request but the one for replicas is established by repartitioning. -/
theorem repartitions_establishingKind_iff :
    request.establishingKind.Repartitions ↔ request ≠ .replicated := by
  cases request <;> simp [establishingKind, ShipKind.Repartitions]

end GlobalRequest

namespace ChannelRequest

/--
Replicated data is repartitioned for the request: by a forced repartitioning; or, with none forced, in order to
change the number of partitions, or to hash the data in the wanted order of keys.
-/
def RepartitionsReplicas (request : ChannelRequest) (parallelism : Nat) : Prop :=
  let requested := request.requirement.globally
  match request.forced with
  | some kind =>
      kind.Repartitions ∧ (requested.shipBy? request.hashKeys kind).isSome ∧ requested.Establishable
  | none =>
      if parallelism = request.target then
        ∃ keys ∈ request.hashKeys, requested.IsMetBy { partitioning := .hash keys }
      else
        requested ≠ .replicated ∧ requested.Establishable

variable {request : ChannelRequest} {globally : GlobalProperties} {parallelism : Nat} {ship : ShipStrategy}

theorem mem_alternatives_of_forced_iff
    {kind : ShipKind}
    (forced : request.forced = some kind)
    (repartitions : ship.kind.Repartitions) :
    ship ∈ request.alternatives globally parallelism ↔
      request.requirement.globally.shipBy? request.hashKeys kind = some ship := by
  cases kind with
  | forward =>
      have notForward : ship.kind ≠ .forward := by
        intro isForward
        rw [isForward] at repartitions
        exact repartitions
      exact iff_of_false (fun isAlternative => notForward (kind_of_mem_alternatives isAlternative forced))
        fun shipped => notForward (GlobalRequest.kind_of_shipBy? shipped).1
  | partitionHash => simp [alternatives, forced]
  | partitionRange => simp [alternatives, forced]
  | partitionRandom => simp [alternatives, forced]
  | broadcast => simp [alternatives, forced]

/-- Replicated data meets every request, so all that may keep it from being forwarded is its parallelism. -/
theorem canForward_of_replicated
    (replicated : globally.isReplicated = true) :
    request.canForward globally parallelism = decide (parallelism = request.target) := by
  simp [canForward, GlobalRequest.isMetBy_of_replicated replicated]

/-- Where replicated data can be forwarded, it may be hashed as well in the wanted order of keys. -/
theorem mem_alternatives_of_parallelism_eq_iff
    (replicated : globally.isReplicated = true)
    (unforced : request.forced = none)
    (sameParallelism : parallelism = request.target) :
    ship ∈ request.alternatives globally parallelism ↔
      ship = .forward ∨ ∃ keys ∈ request.hashKeys, ship = .partitionHash keys := by
  have isReplicated : globally.partitioning = .replicated := GlobalProperties.isReplicated_iff.mp replicated
  simp only [alternatives, unforced, canForward_of_replicated replicated, sameParallelism, decide_true,
    if_true, List.mem_cons, rehash, isReplicated]
  cases request.hashKeys <;> simp

/-- Otherwise it is shipped in the way that establishes the request. -/
theorem mem_alternatives_of_parallelism_ne_iff
    (replicated : globally.isReplicated = true)
    (unforced : request.forced = none)
    (otherParallelism : parallelism ≠ request.target) :
    ship ∈ request.alternatives globally parallelism ↔
      request.requirement.globally.shipBy? request.hashKeys
        request.requirement.globally.establishingKind = some ship := by
  simp [alternatives, unforced, canForward_of_replicated replicated, otherParallelism]

theorem exists_repartitioning_iff
    (replicated : globally.isReplicated = true) :
    (∃ ship ∈ request.alternatives globally parallelism, ship.kind.Repartitions ∧
        request.requirement.globally.IsMetBy (ship.deliver globally)) ↔
      request.RepartitionsReplicas parallelism := by
  unfold RepartitionsReplicas
  cases forced : request.forced with
  | some kind =>
      simp only [← GlobalRequest.exists_repartitioning_iff globally]
      exact exists_congr fun _ => and_congr_left fun holds => mem_alternatives_of_forced_iff forced holds.1
  | none =>
      simp only
      split
      · rename_i sameParallelism
        simp only [mem_alternatives_of_parallelism_eq_iff replicated forced sameParallelism]
        constructor
        · rintro ⟨ship, rfl | ⟨keys, isOrder, rfl⟩, repartitions, met⟩
          · exact absurd repartitions id
          · exact ⟨keys, isOrder, GlobalRequest.isMetBy_withPartitioning.mp met⟩
        · rintro ⟨keys, isOrder, met⟩
          exact ⟨.partitionHash keys, .inr ⟨keys, isOrder, rfl⟩, trivial,
            GlobalRequest.isMetBy_withPartitioning.mpr met⟩
      · rename_i otherParallelism
        simp only [mem_alternatives_of_parallelism_ne_iff replicated forced otherParallelism,
          GlobalRequest.exists_repartitioning_iff, GlobalRequest.repartitions_establishingKind_iff]
        refine and_congr_right fun _ => and_iff_right_of_imp fun establishable => ?_
        obtain ⟨_, shipped, _⟩ := GlobalRequest.exists_shipBy? establishable request.hashKeys
        exact Option.isSome_of_eq_some shipped

end ChannelRequest

namespace Candidate

variable {Number : Type} [Arithmetic Number] {source : Candidate Number}

/--
The channel tells of data that is not replicated and has the unique fields of its source, but the consumer gets
every record once for each replica.  So the unique fields are wrong if there are several replicas.
-/
structure DeliversReplicas
    (source : Candidate Number)
    (channel : Channel Number (Candidate Number)) : Prop where
  spread : channel.globally.partitioning ≠ .replicated
  uniqueSets_eq : channel.globally.uniqueSets = source.globally.uniqueSets
  copied : ∀ {Value : Type} {parallelism target : Nat}
      {data : DataSet Value parallelism} {moved : DataSet Value target},
    data.Realises source.globally → moved.MovedFrom data →
      (moved.logicalRecords channel.globally.partitioning).Perm
        (data.copies source.globally.partitioning parallelism)
  misdescribed : ∀ {Value : Type} {parallelism target : Nat}
      {data : DataSet Value parallelism} {moved : DataSet Value target} {fields : FieldSet},
    data.Realises source.globally → moved.MovedFrom data → 1 < parallelism →
      data.logicalRecords source.globally.partitioning ≠ [] →
        fields ∈ source.globally.uniqueSets → ¬ moved.Realises channel.globally

theorem deliversReplicas_of_mem_channels
    (replicated : source.globally.isReplicated = true)
    {request : ChannelRequest}
    {model : CostModel Number}
    {channel : Channel Number (Candidate Number)}
    (isChannel : channel ∈ source.channels request model)
    (repartitions : channel.ship.kind.Repartitions) :
    DeliversReplicas source channel := by
  have isReplicated := GlobalProperties.isReplicated_iff.mp replicated
  have globally_eq := (synthesised_of_mem_channels isChannel).globally_eq
  have spread : channel.globally.partitioning ≠ .replicated :=
    globally_eq ▸ ShipStrategy.partitioning_deliver_ne_replicated repartitions source.globally
  have uniqueSets_eq : channel.globally.uniqueSets = source.globally.uniqueSets :=
    globally_eq ▸ ShipStrategy.uniqueSets_deliver repartitions source.globally
  refine ⟨spread, uniqueSets_eq, ?_, ?_⟩
  · intro Value parallelism target data moved realises isMoved
    have follows := realises.follows
    rw [isReplicated] at follows ⊢
    exact isMoved.perm_copies follows spread
  · intro Value parallelism target data moved fields realises isMoved severalReplicas someRecord isUnique
    have follows := realises.follows
    rw [isReplicated] at follows someRecord
    exact isMoved.not_realises follows severalReplicas someRecord spread (uniqueSets_eq ▸ isUnique)

/--
Replicated data is repartitioned exactly for the requests that ask for it, as long as what they ask for locally
can be prepared.  Each channel that does so delivers all replicas as if they were different records.
-/
theorem repartitions_replicas_iff
    (replicated : source.globally.isReplicated = true)
    (request : ChannelRequest)
    (model : CostModel Number) :
    ((∃ channel ∈ source.channels request model, channel.ship.kind.Repartitions) ↔
        request.RepartitionsReplicas source.parallelism ∧
          ∃ prepared, request.prepare? { uniqueSets := source.globally.uniqueSets } = some prepared) ∧
      ∀ channel ∈ source.channels request model,
        channel.ship.kind.Repartitions → DeliversReplicas source channel := by
  refine ⟨?_, fun channel isChannel => deliversReplicas_of_mem_channels replicated isChannel⟩
  rw [exists_mem_channels_iff fun ship => ship.kind.Repartitions,
    ← ChannelRequest.exists_repartitioning_iff replicated]
  constructor
  · rintro ⟨ship, isAlternative, repartitions, met, isPrepared⟩
    rw [ShipStrategy.deliverLocal_eq repartitions] at isPrepared
    exact ⟨⟨ship, isAlternative, repartitions, met⟩, isPrepared⟩
  · rintro ⟨⟨ship, isAlternative, repartitions, met⟩, isPrepared⟩
    rw [← ShipStrategy.deliverLocal_eq repartitions source.globally source.locally] at isPrepared
    exact ⟨ship, isAlternative, repartitions, met, isPrepared⟩

/-- A list of prices that each of four partitions holds, with one price for each article. -/
def replicatedPrices : Candidate WholeNumber where
  identifier := 0
  node := { identifier := 0, name := "prices", operator := .source {} }
  driver := .sourceScan
  inputs := []
  globally := { partitioning := .replicated, uniqueSets := .ofList [.ofList [0]] }
  locally := {}
  parallelism := 4
  statistics := {}
  nodeCost := .zero
  cumulativeCost := .zero
  branchPlan := .empty

/-- What a join on the first field requests from one of its inputs. -/
def joinRequest : ChannelRequest where
  requirement := { globally := .hash (.ofList [0]) }
  hashKeys := some [0]
  target := 4

/-- The prices can be forwarded to the join, and are still hashed for it as well. -/
theorem repartitions_replicas_iff_prices :
    replicatedPrices.globally.isReplicated = true ∧
      ∃ channel ∈ replicatedPrices.channels joinRequest .default,
        channel.ship.kind.Repartitions ∧ DeliversReplicas replicatedPrices channel := by
  have replicated : replicatedPrices.globally.isReplicated = true := rfl
  obtain ⟨repartitionsIff, delivers⟩ := repartitions_replicas_iff replicated joinRequest .default
  obtain ⟨channel, isChannel, repartitions⟩ := repartitionsIff.mpr
    ⟨⟨[0], rfl, by decide⟩, (.none, { uniqueSets := .ofList [.ofList [0]] }), by decide⟩
  exact ⟨replicated, channel, isChannel, repartitions, delivers channel isChannel repartitions⟩

/-- Replicated prices are repartitioned for a join, for more partitions, and for a reduction that forces it. -/
theorem repartitions_replicatedPrices :
    replicatedPrices.globally.isReplicated = true ∧
      (∃ channel ∈ replicatedPrices.channels joinRequest .default, channel.ship = .partitionHash [0]) ∧
      (∃ channel ∈ replicatedPrices.channels { requirement := {}, target := 8 } .default,
        channel.ship = .partitionRandom) ∧
      ∃ channel ∈ replicatedPrices.channels
          { requirement := { globally := .any (.ofList [0]) }, forced := some .partitionRange, target := 4 }
          .default,
        channel.ship = .partitionRange (.ascending [0]) none := by
  decide

end Candidate

end Dataflow
