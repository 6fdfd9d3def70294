import Dataflow.Properties.Global

namespace Dataflow

/-!
# Shipping and local strategies

How records move from a producer to its consumer, and how each partition is prepared before the
consumer runs.
-/

/-- The kinds of shipping, of which one can be forced on an input. -/
inductive ShipKind where
  | forward
  | partitionHash
  | partitionRange
  | partitionRandom
  | broadcast
  deriving Repr, DecidableEq

namespace ShipKind

/-- All kinds in the order of their declaration. -/
def all : List ShipKind := [.forward, .partitionHash, .partitionRange, .partitionRandom, .broadcast]

/-- The name of a kind. -/
def name : ShipKind → String
  | .forward => "Forward"
  | .partitionHash => "PartitionHash"
  | .partitionRange => "PartitionRange"
  | .partitionRandom => "PartitionRandom"
  | .broadcast => "Broadcast"

/-- The kind of a name. -/
def ofName? (name : String) : Option ShipKind := all.find? fun kind => kind.name == name

end ShipKind

/-- How records move from a producer to its consumer. -/
inductive ShipStrategy where
  /-- Each partition of the producer feeds the partition of the consumer with the same index. -/
  | forward
  /-- A hash of the fields, taken in list order, chooses the partition. -/
  | partitionHash (fields : FieldList)
  /-- Consecutive ranges of the order make up the partitions. -/
  | partitionRange (order : SortOrder) (histogram : Option Histogram)
  /-- Records are spread evenly, as needed to change the parallelism. -/
  | partitionRandom
  /-- Each partition of the consumer receives all records. -/
  | broadcast
  deriving Repr, DecidableEq

namespace ShipStrategy

/-- The kind of a strategy. -/
def kind : ShipStrategy → ShipKind
  | .forward => .forward
  | .partitionHash _ => .partitionHash
  | .partitionRange _ _ => .partitionRange
  | .partitionRandom => .partitionRandom
  | .broadcast => .broadcast

/-- The global properties of shipped data.  Unique fields stay unique unless records are copied. -/
def deliver (source : GlobalProperties) : ShipStrategy → GlobalProperties
  | .forward => source
  | .partitionHash fields => source.withPartitioning (.hash fields)
  | .partitionRange order histogram => source.withPartitioning (.range order histogram)
  | .partitionRandom => source.withPartitioning .random
  | .broadcast => { partitioning := .replicated }

/-- The name of the kind with the fields or columns that it uses. -/
def render : ShipStrategy → String
  | .partitionHash fields => ShipKind.partitionHash.name ++ fields.render
  | .partitionRange order _ => ShipKind.partitionRange.name ++ order.render
  | strategy => strategy.kind.name

end ShipStrategy

/-- How the records of one partition are prepared before the consumer runs. -/
inductive LocalStrategy where
  | none
  | sort (order : SortOrder)
  /-- Sorts records and aggregates those with equal keys ahead of time. -/
  | combiningSort (order : SortOrder)
  deriving Repr, DecidableEq

namespace LocalStrategy

/-- The strategy with the columns that it sorts by. -/
def render : LocalStrategy → String
  | .none => "None"
  | .sort order => "Sort" ++ order.render
  | .combiningSort order => "CombiningSort" ++ order.render

end LocalStrategy

end Dataflow
