import Dataflow.Properties.Global
import Dataflow.Properties.Local

namespace Dataflow

/-!
# Requested properties

What an execution strategy demands of the data that reaches one of its inputs: a global request on the
partitioning, and a local request on the order inside each partition.
-/

/-- A demand on the partitioning of an input. -/
inductive GlobalRequest where
  /-- No demand. -/
  | random
  /-- Records that agree on the fields are in the same partition. -/
  | any (fields : FieldSet)
  /-- Records that agree on the fields are in the same partition, by hashing. -/
  | hash (fields : FieldSet)
  /-- Consecutive ranges of the order make up the partitions. -/
  | range (order : SortOrder) (histogram : Option Histogram)
  /-- Each partition holds all records. -/
  | replicated
  deriving Repr, DecidableEq

namespace GlobalRequest

/-- Whether the request demands nothing. -/
def isTrivial (request : GlobalRequest) : Bool := decide (request = .random)

/-- The partitioning satisfies the request, apart from the rule that replication satisfies all. -/
def metByPartitioning : GlobalRequest → GlobalProperties → Bool
  | .random, _ => true
  | .replicated, _ => false
  | .any fields, delivered => delivered.isPartitionedOn fields
  | .hash fields, delivered =>
      match delivered.partitioning with
      | .hash _ => delivered.isPartitionedOn fields
      | _ => false
  | .range order histogram, delivered =>
      match delivered.partitioning with
      | .range deliveredOrder deliveredHistogram =>
          decide (order = deliveredOrder) &&
            (histogram.isNone || decide (histogram = deliveredHistogram))
      | _ => false

/--
Delivered properties satisfy the request.  Full replication satisfies every request, and random
partitioning only the trivial one.
-/
def IsMetBy (request : GlobalRequest) (delivered : GlobalProperties) : Prop :=
  delivered.isReplicated || request.metByPartitioning delivered

instance (request : GlobalRequest) (delivered : GlobalProperties) :
    Decidable (IsMetBy request delivered) :=
  inferInstanceAs (Decidable (_ = true))

/-- The request as it appears in requirement rows. -/
def render : GlobalRequest → String
  | .random => "any"
  | .any fields => "partitioned" ++ fields.render
  | .hash fields => "hash" ++ fields.render
  | .range order _ => "range" ++ order.render
  | .replicated => "replicated"

end GlobalRequest

/-- A demand on the sequence of records inside each partition of an input. -/
structure LocalRequest where
  order : Option SortOrder := none
  grouped : Option FieldSet := none
  deriving Repr, DecidableEq

namespace LocalRequest

/-- No demand. -/
def none : LocalRequest := {}

/-- The records must be sorted. -/
def sortedBy (order : SortOrder) : LocalRequest := { order := some order }

/-- Records that agree on the fields must be adjacent. -/
def groupedBy (fields : FieldSet) : LocalRequest := { grouped := some fields }

/-- Whether the request demands nothing. -/
def isTrivial (request : LocalRequest) : Bool := request.order.isNone && request.grouped.isNone

/-- Delivered properties satisfy the request. -/
def IsMetBy (request : LocalRequest) (delivered : LocalProperties) : Prop :=
  (∀ order ∈ request.order, delivered.IsSortedBy order) ∧
    ∀ fields ∈ request.grouped, delivered.IsGroupedOn fields

instance (request : LocalRequest) (delivered : LocalProperties) :
    Decidable (IsMetBy request delivered) :=
  inferInstanceAs (Decidable (_ ∧ _))

/-- The demands one after another, or a word for their absence. -/
def render (request : LocalRequest) : String :=
  if request.isTrivial then
    "any"
  else
    String.intercalate " " <|
      (request.order.map fun order => "ordered" ++ order.render).toList ++
        (request.grouped.map fun fields => "grouped" ++ fields.render).toList

end LocalRequest

/-- What one input of a strategy must provide. -/
structure InputRequirement where
  globally : GlobalRequest := .random
  locally : LocalRequest := .none
  deriving Repr, DecidableEq

namespace InputRequirement

/-- The global request and the local one, in parentheses. -/
def render (requirement : InputRequirement) : String :=
  "(" ++ requirement.globally.render ++ ", " ++ requirement.locally.render ++ ")"

end InputRequirement

end Dataflow
