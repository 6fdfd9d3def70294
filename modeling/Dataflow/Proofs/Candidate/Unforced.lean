import Dataflow.Proofs.Candidate.Maximality
import Dataflow.Proofs.Candidate.Replication

namespace Dataflow

/-!
# Requests without forced shipping

Where no shipping is forced, a request is met unless nothing can establish it.  Among all that operators request,
only a grouping by no fields at all cannot be established, since hashing on no fields counts for nothing: such a
request is met by forwarding replicated data alone.
-/

namespace GlobalRequest

variable {request : GlobalRequest}

/-- What cannot be established is met by full replication only. -/
theorem isMetBy_iff_of_not_establishable
    (notEstablishable : ¬ request.Establishable)
    {delivered : GlobalProperties} :
    request.IsMetBy delivered ↔ delivered.isReplicated = true := by
  have notPartitioned : ∀ {fields : FieldSet}, ¬ fields.isEmpty = false →
      ¬ delivered.isPartitionedOn fields = true := by
    intro fields noField partitioned
    obtain ⟨deciding, _, someField, smaller⟩ := GlobalProperties.isPartitionedOn_iff.mp partitioned
    have isNil : fields.toList = [] := by simpa [SortedSet.isEmpty] using noField
    have deciding_eq : deciding.toList = [] := List.eq_nil_iff_forall_not_mem.mpr fun field isField => by
      simpa [SortedSet.mem_def, isNil] using smaller field isField
    simp [SortedSet.isEmpty, deciding_eq] at someField
  refine ⟨fun met => ?_, isMetBy_of_replicated⟩
  refine (Bool.or_eq_true_iff.mp met).resolve_right fun byPartitioning => ?_
  cases request with
  | random => exact notEstablishable trivial
  | replicated => exact notEstablishable trivial
  | range order histogram => exact notEstablishable trivial
  | any fields => exact notPartitioned notEstablishable byPartitioning
  | hash fields =>
      simp only [metByPartitioning] at byPartitioning
      split at byPartitioning
      · exact notPartitioned notEstablishable byPartitioning
      · exact Bool.false_ne_true byPartitioning

/-- The shipping that establishes a request meets it only if it can be established at all. -/
theorem establishable_of_shipBy?
    {keys : Option FieldList}
    {ship : ShipStrategy}
    (shipped : request.shipBy? keys request.establishingKind = some ship)
    {source : GlobalProperties}
    (met : request.IsMetBy (ship.deliver source)) :
    request.Establishable := by
  by_cases isReplication : request = .replicated
  · subst isReplication
    trivial
  · exact (isMetBy_shipBy?_iff shipped (repartitions_establishingKind_iff.mpr isReplication) source).mp met

end GlobalRequest

namespace Candidate

variable {Number : Type} [Arithmetic Number] {source : Candidate Number} {model : CostModel Number}

/-- A request that no shipping is forced for is met if it can be established, or else by forwarding. -/
theorem exists_mem_channels_iff_of_unforced
    {request : ChannelRequest}
    (unforced : request.forced = none)
    (locally : request.requirement.locally.Establishable) :
    (∃ channel, channel ∈ source.channels request model) ↔
      request.requirement.globally.Establishable ∨
        request.canForward source.globally source.parallelism = true := by
  constructor
  · rintro ⟨channel, isChannel⟩
    have synthesised := synthesised_of_mem_channels isChannel
    by_cases forwardable : request.canForward source.globally source.parallelism = true
    · exact .inr forwardable
    · have shipped := synthesised.shipped
      simp only [ChannelRequest.alternatives, unforced, forwardable, Bool.false_eq_true, if_false,
        Option.mem_toList] at shipped
      exact .inl (GlobalRequest.establishable_of_shipBy? shipped
        (synthesised.globally_eq ▸ synthesised.globallyMet))
  · rintro (globally | forwardable)
    · exact exists_mem_channels unforced ⟨globally, locally⟩ source model
    · have isAlternative : ShipStrategy.forward ∈ request.alternatives source.globally source.parallelism := by
        simp [ChannelRequest.alternatives, unforced, forwardable]
      obtain ⟨channel, isChannel, _⟩ := (exists_mem_channels_iff fun _ => True).mpr
        ⟨.forward, isAlternative, trivial, (ChannelRequest.canForward_iff.mp forwardable).2,
          ChannelRequest.exists_prepare? locally _⟩
      exact ⟨channel, isChannel⟩

end Candidate

namespace Operator

variable {Number : Type} {operator : Operator Number} {driver : Driver} {row : List InputRequirement}
  {requirement : InputRequirement}

/-- All that an operator requires can be established, unless it groups by no field. -/
theorem globally_establishable_iff
    (isDriver : driver ∈ operator.drivers)
    (isRow : row ∈ driver.requirements)
    (isRequirement : requirement ∈ row) :
    requirement.globally.Establishable ↔ operator.HasKeys := by
  refine ⟨fun establishable => ?_, fun hasKeys =>
    (establishable_of_mem_drivers hasKeys isDriver isRow isRequirement).globally⟩
  cases operator with
  | reduce keys combinable preserved =>
      obtain rfl := List.mem_singleton.mp isDriver
      obtain rfl : row = [⟨.any keys, .groupedBy keys⟩] := by
        simpa [Driver.requirements, Driver.globalRows, Driver.localRow] using isRow
      obtain rfl := List.mem_singleton.mp isRequirement
      exact establishable
  | _ => trivial

/--
What an operator requires of an input is met by some channel from every candidate, if no shipping is forced.  A
reduction without keys is the exception: it needs replicated data that can be forwarded.
-/
theorem exists_channel_iff_hasKeys
    [Arithmetic Number]
    (isDriver : driver ∈ operator.drivers)
    (isRow : row ∈ driver.requirements)
    {request : ChannelRequest}
    (isRequirement : request.requirement ∈ row)
    (unforced : request.forced = none)
    (source : Candidate Number)
    (model : CostModel Number) :
    (∃ channel, channel ∈ source.channels request model) ↔
      operator.HasKeys ∨
        source.parallelism = request.target ∧ source.globally.isReplicated = true := by
  have establishable_iff := globally_establishable_iff isDriver isRow isRequirement
  have locally := Driver.locally_establishable (Driver.mem_of_mem_requirements isRow isRequirement).2
  rw [Candidate.exists_mem_channels_iff_of_unforced unforced locally, establishable_iff,
    ChannelRequest.canForward_iff]
  by_cases hasKeys : operator.HasKeys
  · simp [hasKeys]
  · rw [GlobalRequest.isMetBy_iff_of_not_establishable fun establishable =>
      hasKeys (establishable_iff.mp establishable)]

/--
A join with repeated keys can read data that is partitioned in another way and has another parallelism.  A
reduction without keys can read replicas.
-/
theorem exists_channel_iff_hasKeys_repeated :
    let keys : JoinKeys := { left := [0, 0, 1], right := [2, 3, 2] }
    let ranged := { Candidate.scan 0 (.range ⟨[⟨0, .descending⟩]⟩ none) 1 with parallelism := 3 }
    (∃ channel, channel ∈ ranged.channels
        { requirement := { globally := .hash keys.right.toSet, locally := .sortedBy (.ascending keys.right) }
          hashKeys := some keys.right
          target := 8 }
        .default) ∧
      ∃ channel, channel ∈ (Candidate.scan 0 .replicated 1).channels
        { requirement := { globally := .any .empty, locally := .groupedBy .empty } } .default := by
  intro keys ranged
  have forJoin := @exists_channel_iff_hasKeys WholeNumber (.join keys {})
    (.sortMergeJoin keys.left keys.right) _ _ (.tail _ (.head _)) (.head _)
  have forReduce := @exists_channel_iff_hasKeys WholeNumber (.reduce .empty false none)
    (.sortedReduce .empty false) _ _ (.head _) (.head _)
  exact ⟨(forJoin (.tail _ (.head _)) rfl ranged .default).mpr (.inl trivial),
    (forReduce (.head _) rfl (Candidate.scan 0 .replicated 1) .default).mpr (.inr ⟨rfl, rfl⟩)⟩

/-- A reduction without keys finds no channel from data that is not replicated, even to a single partition. -/
theorem not_exists_channel_keyless :
    let keyless : Operator WholeNumber := .reduce .empty false none
    let requirement : InputRequirement := { globally := .any .empty, locally := .groupedBy .empty }
    .sortedReduce .empty false ∈ keyless.drivers ∧
      [requirement] ∈ (Driver.sortedReduce .empty false).requirements ∧
      ¬ ∃ channel, channel ∈ (Candidate.scan 0 .random 1).channels { requirement } .default := by
  intro keyless requirement
  have noChannel : ((Candidate.scan 0 .random 1).channels { requirement } .default).isEmpty = true := by
    decide
  refine ⟨.head _, .head _, ?_⟩
  rintro ⟨channel, isChannel⟩
  rw [List.isEmpty_iff.mp noChannel] at isChannel
  exact absurd isChannel List.not_mem_nil

end Operator

end Dataflow
