import Dataflow.Program.Operator
import Dataflow.Proofs.Candidate.Synthesis
import Dataflow.Proofs.Properties.Satisfaction

namespace Dataflow

/-!
# Feasibility of requests

A request that no shipping is forced for can be met from every candidate: either its data can be forwarded,
or some shipping establishes the request, and a sort prepares what is missing locally.
-/

namespace GlobalRequest

/-- Some shipping establishes the request; hashing on no fields would not gather any records. -/
def Establishable : GlobalRequest → Prop
  | .any fields => fields.isEmpty = false
  | .hash fields => fields.isEmpty = false
  | _ => True

/-- Hashing orders the requested fields, and loses none of them. -/
theorem toSet_hashOrder (fields : FieldSet) (keys : Option FieldList) :
    (hashOrder fields keys).toSet = fields := by
  cases keys with
  | none => exact FieldSet.toSet_toFieldList fields
  | some order =>
      rw [hashOrder]
      split
      · assumption
      · exact FieldSet.toSet_toFieldList fields

theorem isPartitionedOn_hash
    {fields : FieldSet}
    (someField : fields.isEmpty = false)
    (keys : Option FieldList)
    (properties : GlobalProperties) :
    (properties.withPartitioning (.hash (hashOrder fields keys))).isPartitionedOn fields = true := by
  simp [GlobalProperties.isPartitionedOn, GlobalProperties.withPartitioning, Partitioning.fields?,
    toSet_hashOrder, someField, SortedSet.subset_def]

/-- The shipping that establishes a request delivers what it demands. -/
theorem exists_shipBy?
    {request : GlobalRequest}
    (establishable : request.Establishable)
    (keys : Option FieldList) :
    ∃ ship, request.shipBy? keys request.establishingKind = some ship ∧
      ∀ properties, request.IsMetBy (ship.deliver properties) := by
  cases request with
  | random => exact ⟨_, rfl, fun _ => by simp [IsMetBy, metByPartitioning]⟩
  | replicated =>
      exact ⟨_, rfl, fun _ => by simp [IsMetBy, ShipStrategy.deliver, GlobalProperties.isReplicated]⟩
  | range order histogram =>
      exact ⟨_, rfl, fun _ => by
        simp [IsMetBy, ShipStrategy.deliver, metByPartitioning, GlobalProperties.withPartitioning]⟩
  | any fields =>
      refine ⟨_, rfl, fun properties => ?_⟩
      have partitioned := isPartitionedOn_hash establishable keys properties
      simp [IsMetBy, ShipStrategy.deliver, metByPartitioning, partitioned]
  | hash fields =>
      refine ⟨_, rfl, fun properties => ?_⟩
      have partitioned := isPartitionedOn_hash establishable keys properties
      simp only [IsMetBy, ShipStrategy.deliver, metByPartitioning, Bool.or_eq_true]
      exact .inr partitioned

end GlobalRequest

namespace LocalRequest

/-- A single sort establishes the request. -/
def Establishable (request : LocalRequest) : Prop :=
  request.order = Option.none ∨ request.grouped = Option.none

end LocalRequest

/-- Whether a requirement can be met by shipping and sorting. -/
structure InputRequirement.Establishable (requirement : InputRequirement) : Prop where
  globally : requirement.globally.Establishable
  locally : requirement.locally.Establishable

namespace ChannelRequest

/-- What is not met by the shipped data is met after a sort. -/
theorem exists_prepare?
    {request : ChannelRequest}
    (establishable : request.requirement.locally.Establishable)
    (shipped : LocalProperties) :
    ∃ prepared, request.prepare? shipped = some prepared := by
  have sortedMeets : ∀ order uniqueSets, request.requirement.locally.order = some order →
      request.requirement.locally.grouped = none →
      request.requirement.locally.IsMetBy { order := some order, uniqueSets } := by
    intro order uniqueSets isOrder notGrouped
    simp [LocalRequest.IsMetBy, isOrder, notGrouped, LocalProperties.IsSortedBy, SortOrder.StartsWith.refl]
  have groupedMeets : ∀ fields uniqueSets, request.requirement.locally.grouped = some fields →
      request.requirement.locally.order = none →
      request.requirement.locally.IsMetBy
        { order := some (.ascending fields.toFieldList), uniqueSets } := by
    intro fields uniqueSets isGrouped notOrdered
    simp [LocalRequest.IsMetBy, isGrouped, notOrdered, LocalProperties.IsGroupedOn,
      SortOrder.leadingFields?_ascending]
  unfold prepare?
  split
  · exact ⟨_, rfl⟩
  · rename_i notMet
    cases isOrder : request.requirement.locally.order with
    | some order =>
        have notGrouped : request.requirement.locally.grouped = none := by
          rcases establishable with absent | absent
          · simp [isOrder] at absent
          · exact absent
        have met := sortedMeets order shipped.uniqueSets isOrder notGrouped
        simp [sortFor?, isOrder, met]
    | none =>
        cases isGrouped : request.requirement.locally.grouped with
        | none =>
            exact absurd ⟨by simp [isOrder], by simp [isGrouped]⟩ notMet
        | some fields =>
            cases combinable : request.combinable with
            | false =>
                have met := groupedMeets fields shipped.uniqueSets isGrouped isOrder
                simp [sortFor?, isOrder, isGrouped, combinable, met]
            | true =>
                have met := groupedMeets fields
                  (shipped.uniqueSets.insert (SortOrder.ascending fields.toFieldList).fieldSet)
                  isGrouped isOrder
                simp [sortFor?, isOrder, isGrouped, combinable, met, LocalProperties.addUnique]

end ChannelRequest

namespace Candidate

variable {Number : Type} [Arithmetic Number]

/-- Where no shipping is forced, some channel meets the request. -/
theorem exists_mem_channels
    {request : ChannelRequest}
    (unforced : request.forced = none)
    (establishable : request.requirement.Establishable)
    (source : Candidate Number)
    (model : CostModel Number) :
    ∃ channel, channel ∈ source.channels request model := by
  obtain ⟨ship, isAlternative, globallyMet⟩ :
      ∃ ship ∈ request.alternatives source.globally source.parallelism,
        request.requirement.globally.IsMetBy (ship.deliver source.globally) := by
    unfold ChannelRequest.alternatives
    rw [unforced]
    by_cases forwardable : request.canForward source.globally source.parallelism = true
    · exact ⟨.forward, by simp [forwardable], (ChannelRequest.canForward_iff.mp forwardable).2⟩
    · obtain ⟨ship, shipped, meets⟩ :=
        GlobalRequest.exists_shipBy? establishable.globally request.hashKeys
      exact ⟨ship, by simp [forwardable, shipped], meets source.globally⟩
  have isPrepared := ChannelRequest.exists_prepare? establishable.locally
    (ship.deliverLocal source.globally source.locally)
  obtain ⟨channel, isChannel, _⟩ := (exists_mem_channels_iff fun _ => True).mpr
    ⟨ship, isAlternative, trivial, globallyMet, isPrepared⟩
  exact ⟨channel, isChannel⟩

end Candidate

theorem JoinKeys.right_ne_nil (keys : JoinKeys) : keys.right ≠ [] := by
  intro noField
  have sameLength := keys.sameLength
  rw [noField, List.length_nil, List.length_eq_zero_iff] at sameLength
  exact keys.nonempty sameLength

namespace Operator

variable {Number : Type}

/-- A reduction groups by some field. -/
def HasKeys : Operator Number → Prop
  | .reduce keys _ _ => keys.isEmpty = false
  | _ => True

instance (operator : Operator Number) : Decidable operator.HasKeys := by
  unfold HasKeys
  split <;> infer_instance

theorem globally_establishable
    {operator : Operator Number}
    (hasKeys : operator.HasKeys)
    {driver : Driver}
    (isDriver : driver ∈ operator.drivers)
    {globals : List GlobalRequest}
    (isRow : globals ∈ driver.globalRows)
    {request : GlobalRequest}
    (isRequest : request ∈ globals) :
    request.Establishable := by
  cases operator <;> simp only [drivers, List.mem_cons, List.not_mem_nil, or_false] at isDriver
  case source =>
    subst isDriver
    simp only [Driver.globalRows, List.mem_singleton] at isRow
    subst isRow
    exact absurd isRequest List.not_mem_nil
  case sink | map =>
    subst isDriver
    simp only [Driver.globalRows, List.mem_singleton] at isRow
    subst isRow
    rw [List.mem_singleton.mp isRequest]
    trivial
  case reduce keys combinable preserved =>
    subst isDriver
    simp only [Driver.globalRows, List.mem_singleton] at isRow
    subst isRow
    rw [List.mem_singleton.mp isRequest]
    exact hasKeys
  case join keys preserved =>
    have leftKeys := FieldList.isEmpty_toSet_of_ne_nil keys.nonempty
    have rightKeys := FieldList.isEmpty_toSet_of_ne_nil keys.right_ne_nil
    rcases isDriver with same | same | same | same <;> subst same <;>
      simp only [Driver.globalRows, List.mem_singleton] at isRow <;> subst isRow <;>
      simp only [List.mem_cons, List.not_mem_nil, or_false] at isRequest <;>
      rcases isRequest with same | same <;> subst same <;> trivial
  case cross preserved =>
    subst isDriver
    simp only [Driver.globalRows, List.mem_cons, List.not_mem_nil, or_false] at isRow
    rcases isRow with same | same <;> subst same <;>
      simp only [List.mem_cons, List.not_mem_nil, or_false] at isRequest <;>
      rcases isRequest with same | same <;> subst same <;> trivial

end Operator

theorem Driver.locally_establishable
    {driver : Driver}
    {request : LocalRequest}
    (isRequest : request ∈ driver.localRow) :
    request.Establishable := by
  cases driver <;> simp only [localRow, List.mem_cons, List.not_mem_nil, or_false] at isRequest
  case sortMergeJoin =>
    rcases isRequest with same | same <;> subst same <;> exact .inr rfl
  case sortedReduce =>
    subst isRequest
    exact .inl rfl
  case sinkForward | mapForward =>
    subst isRequest
    exact .inl rfl
  all_goals
    rcases isRequest with same | same <;> subst same <;> exact .inl rfl

/-- A requirement is made up of a global request and a local one of the driver. -/
theorem Driver.mem_of_mem_requirements
    {driver : Driver}
    {row : List InputRequirement}
    (isRow : row ∈ driver.requirements)
    {requirement : InputRequirement}
    (isRequirement : requirement ∈ row) :
    (∃ globals ∈ driver.globalRows, requirement.globally ∈ globals) ∧
      requirement.locally ∈ driver.localRow := by
  obtain ⟨globals, isGlobals, rfl⟩ := List.mem_map.mp isRow
  rw [← List.map_uncurry_zip_eq_zipWith] at isRequirement
  obtain ⟨⟨globally, locally⟩, isPair, rfl⟩ := List.mem_map.mp isRequirement
  obtain ⟨inGlobals, inLocals⟩ := List.of_mem_zip isPair
  exact ⟨⟨globals, isGlobals, inGlobals⟩, inLocals⟩

/-- Every driver accepts some combination of requirements. -/
theorem Driver.exists_requirements (driver : Driver) : ∃ row, row ∈ driver.requirements := by
  cases driver <;> exact ⟨_, .head _⟩

namespace Operator

variable {Number : Type}

/-- All that the drivers of an operator require can be established. -/
theorem establishable_of_mem_drivers
    {operator : Operator Number}
    (hasKeys : operator.HasKeys)
    {driver : Driver}
    (isDriver : driver ∈ operator.drivers)
    {row : List InputRequirement}
    (isRow : row ∈ driver.requirements)
    {requirement : InputRequirement}
    (isRequirement : requirement ∈ row) :
    requirement.Establishable := by
  obtain ⟨⟨globals, isGlobals, inGlobals⟩, inLocals⟩ := Driver.mem_of_mem_requirements isRow isRequirement
  exact ⟨globally_establishable hasKeys isDriver isGlobals inGlobals,
    Driver.locally_establishable inLocals⟩

/-- Every operator has a driver whose channels always fit together. -/
theorem exists_lenient_driver (operator : Operator Number) :
    ∃ driver ∈ operator.drivers, ∀ inputs, driver.IsCompatible inputs := by
  cases operator with
  | source declared => exact ⟨.sourceScan, .head _, fun _ => trivial⟩
  | sink => exact ⟨.sinkForward, .head _, fun _ => trivial⟩
  | map preserved => exact ⟨.mapForward, .head _, fun _ => trivial⟩
  | reduce keys combinable preserved => exact ⟨.sortedReduce keys combinable, .head _, fun _ => trivial⟩
  | join keys preserved =>
      exact ⟨.broadcastHashJoinFirst keys.left keys.right, by simp [drivers], fun _ => trivial⟩
  | cross preserved => exact ⟨.cartesianProduct, .head _, fun _ => trivial⟩

end Operator

end Dataflow
