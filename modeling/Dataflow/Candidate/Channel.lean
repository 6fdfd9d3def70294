import Dataflow.Candidate.Basic
import Dataflow.Cost.Model
import Dataflow.Strategy.Restrictions

namespace Dataflow

/-!
# Channels

The channels from a candidate to a consumer: which ways of shipping may meet the request of the
consumer, which local preparation is then missing, and what the consumer sees in the end.
-/

/-- What a consumer needs from one of its inputs. -/
structure ChannelRequest where
  requirement : InputRequirement
  /-- The order of keys to hash on, if the consumer needs a certain one. -/
  hashKeys : Option FieldList := none
  /-- Whether a sort that groups records may aggregate them. -/
  combinable : Bool := false
  /-- The kind of shipping that the author of the program forces. -/
  forced : Option ShipKind := none
  /-- The number of partitions of the consumer. -/
  target : Nat := 1
  deriving Repr, DecidableEq

namespace GlobalRequest

/-- The kind of shipping that establishes a request. -/
def establishingKind : GlobalRequest → ShipKind
  | .random => .partitionRandom
  | .any _ => .partitionHash
  | .hash _ => .partitionHash
  | .range _ _ => .partitionRange
  | .replicated => .broadcast

/-- The keys in the wanted order if that order is on the requested fields, else in increasing order. -/
def hashOrder (fields : FieldSet) : Option FieldList → FieldList
  | some keys => if keys.toSet = fields then keys else fields.toFieldList
  | none => fields.toFieldList

/-- Shipping of a kind that establishes a request by itself, whatever it ships. -/
def shipBy? (request : GlobalRequest) (keys : Option FieldList) : ShipKind → Option ShipStrategy
  | .forward => none
  | .broadcast => some .broadcast
  | .partitionHash =>
      match request with
      | .any fields => some (.partitionHash (hashOrder fields keys))
      | .hash fields => some (.partitionHash (hashOrder fields keys))
      | _ => none
  | .partitionRange =>
      match request with
      | .range order histogram => some (.partitionRange order histogram)
      | .any fields => some (.partitionRange (.ascending fields.toFieldList) none)
      | _ => none
  | .partitionRandom =>
      match request with
      | .random => some .partitionRandom
      | _ => none

end GlobalRequest

namespace ChannelRequest

/-- Data with these properties can be forwarded: no partition changes and the request is met already. -/
def canForward (request : ChannelRequest) (globally : GlobalProperties) (parallelism : Nat) : Bool :=
  decide (parallelism = request.target) && decide (request.requirement.globally.IsMetBy globally)

/--
Data that can be forwarded may still be hashed in another order of keys than the other input of a join,
so hashing it again in the wanted order is a second way.
-/
def rehash (request : ChannelRequest) (partitioning : Partitioning) : List ShipStrategy :=
  match request.hashKeys with
  | some keys => if partitioning = .hash keys then [] else [.partitionHash keys]
  | none => []

/-- The ways of shipping to try, the cheapest one first. -/
def alternatives
    (request : ChannelRequest)
    (globally : GlobalProperties)
    (parallelism : Nat) :
    List ShipStrategy :=
  let requested := request.requirement.globally
  match request.forced with
  | some .forward => if request.canForward globally parallelism then [.forward] else []
  | some kind => (requested.shipBy? request.hashKeys kind).toList
  | none =>
      if request.canForward globally parallelism then
        .forward :: request.rehash globally.partitioning
      else
        (requested.shipBy? request.hashKeys requested.establishingKind).toList

/-- The order of a sort that meets the local request, and whether it may aggregate. -/
def sortFor? (request : ChannelRequest) : Option LocalStrategy :=
  match request.requirement.locally.order, request.requirement.locally.grouped with
  | some order, _ => some (.sort order)
  | none, some fields =>
      let order := .ascending fields.toFieldList
      some (if request.combinable then .combiningSort order else .sort order)
  | none, none => none

/--
The missing local preparation and the properties after it.  A sort keeps unique fields unique, and one
that aggregates leaves one record for each value of its columns.
-/
def prepare? (request : ChannelRequest) (shipped : LocalProperties) :
    Option (LocalStrategy × LocalProperties) :=
  if request.requirement.locally.IsMetBy shipped then
    some (.none, shipped)
  else
    let sorted (order : SortOrder) : LocalProperties :=
      { order := some order, uniqueSets := shipped.uniqueSets }
    let prepared :=
      match request.sortFor? with
      | some (.sort order) => (LocalStrategy.sort order, sorted order)
      | some (.combiningSort order) =>
          (LocalStrategy.combiningSort order, (sorted order).addUnique order.fieldSet)
      | _ => (LocalStrategy.none, shipped)
    if request.requirement.locally.IsMetBy prepared.2 then some prepared else none

end ChannelRequest

namespace ShipStrategy

/-- The local properties of shipped data: the sequence of records survives only forwarding. -/
def deliverLocal (globally : GlobalProperties) (locally : LocalProperties) :
    ShipStrategy → LocalProperties
  | .forward => locally
  | _ => { uniqueSets := globally.uniqueSets }

/-- The number of copies of each record that arrive. -/
def replication (target : Nat) : ShipStrategy → Nat
  | .broadcast => target
  | _ => 1

end ShipStrategy

namespace Candidate

variable {Number : Type} [Arithmetic Number]

/-- The channel that ships in a given way, provided that it can meet the request. -/
def channelBy?
    (source : Candidate Number)
    (request : ChannelRequest)
    (model : CostModel Number)
    (ship : ShipStrategy) :
    Option (Channel Number (Candidate Number)) :=
  let globally := ship.deliver source.globally
  if request.requirement.globally.IsMetBy globally then
    match request.prepare? (ship.deliverLocal source.globally source.locally) with
    | some (preparation, locally) =>
        some
          { source
            ship
            preparation
            globally
            locally
            replication := ship.replication request.target
            cost :=
              model.shipCost ship source.statistics request.target +
                model.localCost preparation source.statistics }
    | none => none
  else
    none

/-- The channels that meet a request, the one with the cheapest shipping first. -/
def channels
    (source : Candidate Number)
    (request : ChannelRequest)
    (model : CostModel Number) :
    List (Channel Number (Candidate Number)) :=
  (request.alternatives source.globally source.parallelism).filterMap (source.channelBy? request model)

end Candidate

end Dataflow
