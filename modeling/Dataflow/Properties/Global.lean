import Dataflow.Properties.SortOrder

namespace Dataflow

/-!
# Global properties

How the records of a data set are spread over its parallel partitions, and which field combinations
have unique values.  Global properties are compared by strength: full replication implies every
partitioning, and random partitioning is implied by every one.
-/

/-- A named histogram of values that supplies the boundaries of a range partitioning. -/
structure Histogram where
  name : String
  buckets : Nat
  deriving Repr, DecidableEq

/-- How records are assigned to partitions. -/
inductive Partitioning where
  /-- Any record may be in any partition. -/
  | random
  /-- A hash of the fields, taken in list order, chooses the partition. -/
  | hash (fields : FieldList)
  /-- Consecutive ranges of the order make up the partitions. -/
  | range (order : SortOrder) (histogram : Option Histogram)
  /-- Each partition holds all records. -/
  | replicated
  /-- Some function of the fields chooses the partition. -/
  | any (fields : FieldList)
  deriving Repr, DecidableEq

namespace Partitioning

/-- The fields that decide on the partition of a record, if there are such fields. -/
def fields? : Partitioning → Option FieldSet
  | .hash fields => some fields.toSet
  | .any fields => some fields.toSet
  | .range order _ => some order.fieldSet
  | .random => none
  | .replicated => none

/--
Every request that the second partitioning meets is met by the first one.  A partitioning on fewer
fields is the stronger one, because records that agree on more fields agree on fewer.
-/
def Implies : Partitioning → Partitioning → Prop
  | _, .random => True
  | .replicated, _ => True
  | .hash first, .hash second => first ≠ [] ∧ first.toSet ⊆ second.toSet ∨ first = second
  | .hash first, .any second => first ≠ [] ∧ first.toSet ⊆ second.toSet ∨ first = second
  | .any first, .any second => first ≠ [] ∧ first.toSet ⊆ second.toSet ∨ first = second
  | .range order _, .any second => order.columns ≠ [] ∧ order.fieldSet ⊆ second.toSet
  | first, second => first = second

instance : (first second : Partitioning) → Decidable (Implies first second) := fun first second => by
  unfold Implies
  split <;> infer_instance

/-- The partitioning as it appears in plans and tables. -/
def render : Partitioning → String
  | .hash fields => "hash" ++ fields.render
  | .any fields => "any" ++ fields.render
  | .range order _ => "range" ++ order.render
  | .replicated => "replicated"
  | .random => "random"

end Partitioning

/-- What is known about a data set as a whole. -/
structure GlobalProperties where
  partitioning : Partitioning := .random
  /-- Field combinations on which no two records agree. -/
  uniqueSets : FieldSets := .empty
  deriving Repr, DecidableEq

namespace GlobalProperties

/-- Nothing is known. -/
def random : GlobalProperties := {}

/-- Properties with another partitioning. -/
def withPartitioning
    (partitioning : Partitioning)
    (properties : GlobalProperties) :
    GlobalProperties :=
  { properties with partitioning }

/-- Properties with one more unique field combination. -/
def addUnique (fields : FieldSet) (properties : GlobalProperties) : GlobalProperties :=
  { properties with uniqueSets := properties.uniqueSets.insert fields }

/-- Properties without unique field combinations. -/
def clearUnique (properties : GlobalProperties) : GlobalProperties :=
  { properties with uniqueSets := .empty }

/-- Whether each partition holds all records. -/
def isReplicated (properties : GlobalProperties) : Bool :=
  decide (properties.partitioning = .replicated)

/-- Whether nothing is known about the partitions. -/
def isRandom (properties : GlobalProperties) : Bool :=
  decide (properties.partitioning = .random)

/-- Some of the given fields decide on the partition, so records agreeing on all of them meet. -/
def isPartitionedOn (properties : GlobalProperties) (fields : FieldSet) : Bool :=
  match properties.partitioning.fields? with
  | some deciding => !deciding.isEmpty && decide (deciding ⊆ fields)
  | none => false

/-- What remains known when only the retained fields keep their values. -/
def retain (properties : GlobalProperties) (retained : FieldSet) : GlobalProperties where
  partitioning :=
    match properties.partitioning.fields? with
    | some deciding => if deciding ⊆ retained then properties.partitioning else .random
    | none => properties.partitioning
  uniqueSets := properties.uniqueSets.within retained

/-- What is known of a result computed partition by partition from two inputs. -/
def combine (first second : GlobalProperties) : GlobalProperties where
  partitioning := if first.isReplicated then second.partitioning else first.partitioning
  uniqueSets := first.uniqueSets.union second.uniqueSets

/-- The first properties are at least as strong as the second ones. -/
def Implies (first second : GlobalProperties) : Prop :=
  first.partitioning.Implies second.partitioning ∧ first.uniqueSets.Covers second.uniqueSets

instance (first second : GlobalProperties) : Decidable (Implies first second) :=
  inferInstanceAs (Decidable (_ ∧ _))

/-- The partitioning, followed by the unique field combinations if there are any. -/
def render (properties : GlobalProperties) : String :=
  if properties.uniqueSets.isEmpty then
    properties.partitioning.render
  else
    properties.partitioning.render ++ " unique" ++ properties.uniqueSets.render

end GlobalProperties

end Dataflow
