import Dataflow.Estimate
import Dataflow.Fields
import Dataflow.Sorted.Map

namespace Dataflow

/-!
# Hints

What the author of a program tells about the function behind an operator.  Numeric hints only serve to
estimate sizes and are unknown until set; unique field combinations become properties of the output.
-/

/-- Statistics and selectivity of the function behind an operator. -/
structure Hints (Number : Type) where
  /-- Average number of records emitted per call. -/
  emitted : Estimate Number := .unknown
  /-- Average width of an emitted record in bytes. -/
  width : Estimate Number := .unknown
  /-- Number of distinct values of a field combination. -/
  distinctCounts : SortedMap FieldSet Nat := .empty
  /-- Average number of records that share one value of a field combination. -/
  groupSizes : SortedMap FieldSet Number := .empty
  /-- Field combinations whose values are unique in the output. -/
  uniqueSets : FieldSets := .empty
  deriving Repr, BEq

namespace Hints

variable {Number : Type} [Arithmetic Number]

/-- Hints with the average number of records emitted per call. -/
def setEmitted (hints : Hints Number) (value : Number) :
    Except (RefusedHint Number) (Hints Number) := do
  let emitted ← Estimate.checked "avg_records_emitted_per_call" value
  return { hints with emitted }

/-- Hints with the average width of an emitted record. -/
def setWidth (hints : Hints Number) (value : Number) :
    Except (RefusedHint Number) (Hints Number) := do
  let width ← Estimate.checked "avg_bytes_per_record" value
  return { hints with width }

/-- Hints with the number of distinct values of a field combination. -/
def setDistinctCount (hints : Hints Number) (fields : FieldSet) (count : Nat) : Hints Number :=
  { hints with distinctCounts := hints.distinctCounts.insert fields count }

/-- Hints with the average size of the groups of a field combination. -/
def setGroupSize (hints : Hints Number) (fields : FieldSet) (value : Number) :
    Except (RefusedHint Number) (Hints Number) := do
  discard <| Estimate.checked "avg_records_per_distinct_fields" value
  return { hints with groupSizes := hints.groupSizes.insert fields value }

/-- Hints with more unique field combinations. -/
def addUniqueSets (hints : Hints Number) (sets : List FieldSet) : Hints Number :=
  { hints with uniqueSets := hints.uniqueSets.insertAll sets }

/-- Hints without unique field combinations. -/
def clearUniqueSets (hints : Hints Number) : Hints Number :=
  { hints with uniqueSets := .empty }

/-- The number of distinct values of a field combination. -/
def distinctCount (hints : Hints Number) (fields : FieldSet) : Estimate Number :=
  .ofOption <| (hints.distinctCounts.get? fields).map Arithmetic.ofNat

/-- The average size of the groups of a field combination. -/
def groupSize (hints : Hints Number) (fields : FieldSet) : Estimate Number :=
  .ofOption <| hints.groupSizes.get? fields

/--
All hints of another object put over these: its two averages also when they are unknown, its entries
for field combinations, and its unique combinations unless it has none.
-/
def overriddenBy (hints other : Hints Number) : Hints Number where
  emitted := other.emitted
  width := other.width
  distinctCounts := hints.distinctCounts.insertAll other.distinctCounts.entries
  groupSizes := hints.groupSizes.insertAll other.groupSizes.entries
  uniqueSets := if other.uniqueSets.isEmpty then hints.uniqueSets else other.uniqueSets

end Hints

end Dataflow
