import Dataflow.Properties.Request

namespace Dataflow

/-!
# Drivers

A driver is one way to execute an operator, for instance a join by repartitioning both inputs, or by
broadcasting one of them.  Each driver declares which combinations of input properties it accepts, and
derives the properties of its output from those that its inputs really have.
-/

/-- The kinds of drivers, which restrictions refer to. -/
inductive DriverKind where
  | sourceScan
  | sinkForward
  | mapForward
  | sortedReduce
  | repartitionHashJoin
  | sortMergeJoin
  | broadcastHashJoinFirst
  | broadcastHashJoinSecond
  | cartesianProduct
  deriving Repr, DecidableEq

namespace DriverKind

/-- All kinds in the order of their declaration. -/
def all : List DriverKind :=
  [.sourceScan, .sinkForward, .mapForward, .sortedReduce, .repartitionHashJoin, .sortMergeJoin,
    .broadcastHashJoinFirst, .broadcastHashJoinSecond, .cartesianProduct]

/-- The name of a kind. -/
def name : DriverKind → String
  | .sourceScan => "SourceScan"
  | .sinkForward => "SinkForward"
  | .mapForward => "MapForward"
  | .sortedReduce => "SortedReduce"
  | .repartitionHashJoin => "RepartitionHashJoin"
  | .sortMergeJoin => "SortMergeJoin"
  | .broadcastHashJoinFirst => "BroadcastHashJoinFirst"
  | .broadcastHashJoinSecond => "BroadcastHashJoinSecond"
  | .cartesianProduct => "CartesianProduct"

/-- The kind of a name. -/
def ofName? (name : String) : Option DriverKind := all.find? fun kind => kind.name == name

/-- The place of a kind in the order of declaration. -/
def rank (kind : DriverKind) : Nat := all.idxOf kind

theorem rank_injective : ∀ {first second : DriverKind}, first.rank = second.rank → first = second := by
  intro first second
  cases first <;> cases second <;> decide

instance : LT DriverKind := ⟨fun first second => first.rank < second.rank⟩

instance : DecidableLT DriverKind := fun first second =>
  inferInstanceAs (Decidable (first.rank < second.rank))

instance : StrictTotal DriverKind where
  irrefl kind := Nat.lt_irrefl kind.rank
  trans before after := Nat.lt_trans before after
  connected notBefore notAfter :=
    rank_injective (Nat.le_antisymm (Nat.le_of_not_lt notAfter) (Nat.le_of_not_lt notBefore))

end DriverKind

/-- One way to execute an operator. -/
inductive Driver where
  | sourceScan
  | sinkForward
  | mapForward
  /-- Groups records by sorting each partition, and may aggregate groups while sorting. -/
  | sortedReduce (keys : FieldSet) (combinable : Bool)
  /-- Partitions both inputs by hash of the keys and builds a hash table from the first one. -/
  | repartitionHashJoin (left right : FieldList)
  /-- Partitions both inputs by hash of the keys, sorts them and merges them. -/
  | sortMergeJoin (left right : FieldList)
  /-- Replicates the first input and builds a hash table from it. -/
  | broadcastHashJoinFirst (left right : FieldList)
  /-- Replicates the second input and builds a hash table from it. -/
  | broadcastHashJoinSecond (left right : FieldList)
  /-- Replicates one input and pairs it with each partition of the other one. -/
  | cartesianProduct
  deriving Repr, DecidableEq

namespace Driver

/-- The kind of a driver. -/
def kind : Driver → DriverKind
  | .sourceScan => .sourceScan
  | .sinkForward => .sinkForward
  | .mapForward => .mapForward
  | .sortedReduce _ _ => .sortedReduce
  | .repartitionHashJoin _ _ => .repartitionHashJoin
  | .sortMergeJoin _ _ => .sortMergeJoin
  | .broadcastHashJoinFirst _ _ => .broadcastHashJoinFirst
  | .broadcastHashJoinSecond _ _ => .broadcastHashJoinSecond
  | .cartesianProduct => .cartesianProduct

/-- Number of inputs. -/
def arity : Driver → Nat
  | .sourceScan => 0
  | .sinkForward => 1
  | .mapForward => 1
  | .sortedReduce _ _ => 1
  | .repartitionHashJoin _ _ => 2
  | .sortMergeJoin _ _ => 2
  | .broadcastHashJoinFirst _ _ => 2
  | .broadcastHashJoinSecond _ _ => 2
  | .cartesianProduct => 2

/-- Whether a sort that establishes the requested grouping may aggregate records. -/
def isCombinable : Driver → Bool
  | .sortedReduce _ combinable => combinable
  | _ => false

/--
The keys of an input in the order in which they must be hashed.  A join that partitions both inputs
needs them hashed on corresponding keys, so it fixes the order of the keys.
-/
def hashKeys? : Driver → Nat → Option FieldList
  | .repartitionHashJoin left _, 0 => some left
  | .repartitionHashJoin _ right, 1 => some right
  | .sortMergeJoin left _, 0 => some left
  | .sortMergeJoin _ right, 1 => some right
  | _, _ => none

/-- The accepted combinations of global requests, with one request for each input. -/
def globalRows : Driver → List (List GlobalRequest)
  | .sourceScan => [[]]
  | .sinkForward => [[.random]]
  | .mapForward => [[.random]]
  | .sortedReduce keys _ => [[.any keys]]
  | .repartitionHashJoin left right => [[.hash left.toSet, .hash right.toSet]]
  | .sortMergeJoin left right => [[.hash left.toSet, .hash right.toSet]]
  | .broadcastHashJoinFirst _ _ => [[.replicated, .random]]
  | .broadcastHashJoinSecond _ _ => [[.random, .replicated]]
  | .cartesianProduct => [[.random, .replicated], [.replicated, .random]]

/-- The local requests, one for each input. -/
def localRow : Driver → List LocalRequest
  | .sourceScan => []
  | .sinkForward => [.none]
  | .mapForward => [.none]
  | .sortedReduce keys _ => [.groupedBy keys]
  | .sortMergeJoin left right => [.sortedBy (.ascending left), .sortedBy (.ascending right)]
  | .repartitionHashJoin _ _ => [.none, .none]
  | .broadcastHashJoinFirst _ _ => [.none, .none]
  | .broadcastHashJoinSecond _ _ => [.none, .none]
  | .cartesianProduct => [.none, .none]

/-- The accepted combinations of requirements, each with one requirement for each input. -/
def requirements (driver : Driver) : List (List InputRequirement) :=
  driver.globalRows.map fun globals => globals.zipWith InputRequirement.mk driver.localRow

/-- What is known of a result whose driver reads one or two inputs partition by partition. -/
def combineInputs : List GlobalProperties → GlobalProperties
  | [single] => single
  | [first, second] => .combine first second
  | _ => .random

/--
The partitioning of a cartesian product.  Where both inputs leave it open, the first unique field
combination is taken to decide on the partition.
-/
def productPartitioning (combined : GlobalProperties) : Partitioning :=
  if combined.isRandom then
    match combined.uniqueSets.toList with
    | first :: _ => .any first.toFieldList
    | [] => .random
  else
    combined.partitioning

/--
The global properties of the output, from those of the inputs.  A source has no inputs and gets its
declared properties as the only element.
-/
def outputGlobal (driver : Driver) (inputs : List GlobalProperties) : GlobalProperties :=
  match driver with
  | .sourceScan => inputs.headD .random
  | .sinkForward => inputs.headD .random
  | .mapForward => inputs.headD .random
  | .sortedReduce _ _ => inputs.headD .random
  | .repartitionHashJoin _ _ => (combineInputs inputs).clearUnique
  | .sortMergeJoin _ _ => (combineInputs inputs).clearUnique
  | .broadcastHashJoinFirst _ _ => (combineInputs inputs).clearUnique
  | .broadcastHashJoinSecond _ _ => (combineInputs inputs).clearUnique
  | .cartesianProduct => { partitioning := productPartitioning (combineInputs inputs) }

/--
What a reduction knows of its partitions: the groups are unique, and they follow the order of the input
if that order sorts by the keys first.
-/
def reducedLocal (keys : FieldSet) (input : LocalProperties) : LocalProperties :=
  let sequence : LocalProperties :=
    match input.order with
    | some order =>
        if order.leadingFields? keys.size = some keys then
          .sortedBy order
        else
          .groupedBy keys
    | none => .groupedBy keys
  sequence.addUnique keys

/-- The local properties of the output, from those of the inputs. -/
def outputLocal (driver : Driver) (inputs : List LocalProperties) : LocalProperties :=
  match driver with
  | .sourceScan => inputs.headD .none
  | .sinkForward => inputs.headD .none
  | .mapForward => inputs.headD .none
  | .sortedReduce keys _ => reducedLocal keys (inputs.headD .none)
  | .sortMergeJoin left _ => .sortedBy (.ascending left)
  | .repartitionHashJoin _ _ => .none
  | .broadcastHashJoinFirst _ _ => .none
  | .broadcastHashJoinSecond _ _ => .none
  | .cartesianProduct => .none

/--
Both inputs are hashed on keys at the same positions of the two key lists, so that records with equal
keys meet.  A replicated input meets every record.
-/
def CoPartitioned (left right : FieldList) (first second : GlobalProperties) : Prop :=
  match first.partitioning, second.partitioning with
  | .replicated, _ => True
  | _, .replicated => True
  | .hash firstKeys, .hash secondKeys =>
      firstKeys.length = secondKeys.length ∧
        ∀ keys ∈ firstKeys.zip secondKeys,
          left.position? keys.1 ≠ none ∧ left.position? keys.1 = right.position? keys.2
  | _, _ => False

instance (left right : FieldList) (first second : GlobalProperties) :
    Decidable (CoPartitioned left right first second) := by
  unfold CoPartitioned
  split <;> infer_instance

/-- The partitionings delivered to the inputs of a driver fit together. -/
def IsCompatible : Driver → List GlobalProperties → Prop
  | .repartitionHashJoin left right, [first, second] => CoPartitioned left right first second
  | .sortMergeJoin left right, [first, second] => CoPartitioned left right first second
  | _, _ => True

instance (driver : Driver) (inputs : List GlobalProperties) :
    Decidable (IsCompatible driver inputs) := by
  unfold IsCompatible
  split <;> infer_instance

/-- The kind of the driver with its keys. -/
def render (driver : Driver) : String :=
  let withKeys (left right : FieldList) := driver.kind.name ++ left.render ++ "=" ++ right.render
  match driver with
  | .sortedReduce keys combinable =>
      driver.kind.name ++ keys.render ++ if combinable then " combinable" else ""
  | .repartitionHashJoin left right => withKeys left right
  | .sortMergeJoin left right => withKeys left right
  | .broadcastHashJoinFirst left right => withKeys left right
  | .broadcastHashJoinSecond left right => withKeys left right
  | .sourceScan => driver.kind.name
  | .sinkForward => driver.kind.name
  | .mapForward => driver.kind.name
  | .cartesianProduct => driver.kind.name

end Driver

end Dataflow
