import Dataflow.Cost.Basic
import Dataflow.Statistics
import Dataflow.Strategy.Ship

namespace Dataflow

/-!
# The cost model

Prices of shipping, of local preparation and of drivers, from the sizes of the data.  Unknown sizes are
replaced by configured ones, so that a program without any hints is not taken to be free.
-/

/-- What costs are computed with. -/
structure CostModel (Number : Type) where
  weights : Weights Number
  /-- Number of records assumed where none is known. -/
  assumedRecords : Number
  /-- Width of a record in bytes assumed where none is known. -/
  assumedWidth : Number
  deriving Repr, BEq

namespace CostModel

variable {Number : Type} [Arithmetic Number]

/-- The model used unless another one is configured. -/
def default : CostModel Number where
  weights := .default
  assumedRecords := Arithmetic.ofNat 1000000
  assumedWidth := Arithmetic.ofNat 100

/-- The number of records, known or assumed. -/
def recordsOf (model : CostModel Number) (statistics : Statistics Number) : Number :=
  statistics.records.getD model.assumedRecords

/-- The number of bytes, known or computed with the assumed width. -/
def bytesOf (model : CostModel Number) (statistics : Statistics Number) : Number :=
  statistics.bytes.getD (model.recordsOf statistics * model.assumedWidth)

/-- The cost of shipping data to so many partitions. -/
def shipCost
    (model : CostModel Number)
    (strategy : ShipStrategy)
    (statistics : Statistics Number)
    (target : Nat) :
    Cost Number :=
  match strategy with
  | .forward => .zero
  | .partitionHash _ => ⟨model.bytesOf statistics, Arithmetic.zero, Arithmetic.zero⟩
  | .partitionRandom => ⟨model.bytesOf statistics, Arithmetic.zero, Arithmetic.zero⟩
  -- The boundaries of the ranges are found by a first pass over the records.
  | .partitionRange _ _ => ⟨model.bytesOf statistics, Arithmetic.zero, model.recordsOf statistics⟩
  | .broadcast =>
      ⟨model.bytesOf statistics * Arithmetic.ofNat target, Arithmetic.zero, Arithmetic.zero⟩

/-- The cost of sorting data, which goes through the disk. -/
def sortCost (model : CostModel Number) (statistics : Statistics Number) : Cost Number :=
  let records := model.recordsOf statistics
  let comparisons :=
    if Arithmetic.one < records then records * Arithmetic.log2 records else Arithmetic.zero
  ⟨Arithmetic.zero, model.bytesOf statistics, comparisons⟩

/-- The cost of preparing data locally. -/
def localCost
    (model : CostModel Number)
    (strategy : LocalStrategy)
    (statistics : Statistics Number) :
    Cost Number :=
  match strategy with
  | .none => .zero
  | .sort _ => model.sortCost statistics
  | .combiningSort _ => model.sortCost statistics

/-- The size of the hash table built from an input. -/
def tableBytes
    (model : CostModel Number)
    (inputs : List (Statistics Number))
    (input : Nat) :
    Number :=
  match inputs[input]? with
  | some statistics => model.bytesOf statistics
  | none => Arithmetic.zero

/--
The cost of running a driver on inputs of the given sizes.  A source is charged for reading its own
output.
-/
def driverCost
    (model : CostModel Number)
    (driver : Driver)
    (inputs : List (Statistics Number)) :
    Cost Number :=
  let records := inputs.map model.recordsOf
  let total := Arithmetic.sum records
  let streaming : Cost Number := ⟨Arithmetic.zero, Arithmetic.zero, total⟩
  let hashing (input : Nat) : Cost Number := ⟨Arithmetic.zero, model.tableBytes inputs input, total⟩
  match driver with
  | .sourceScan => streaming
  | .sinkForward => streaming
  | .mapForward => streaming
  | .sortedReduce _ _ => streaming
  | .sortMergeJoin _ _ => streaming
  | .repartitionHashJoin _ _ => hashing 0
  | .broadcastHashJoinFirst _ _ => hashing 0
  | .broadcastHashJoinSecond _ _ => hashing 1
  | .cartesianProduct => ⟨Arithmetic.zero, Arithmetic.zero, Arithmetic.product records⟩

end CostModel

end Dataflow
