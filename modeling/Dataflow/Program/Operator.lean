import Dataflow.Estimate
import Dataflow.Strategy.Restrictions

namespace Dataflow

/-!
# Operators

The operators of a data-flow program.  Each knows how many inputs it reads, which fields it copies
unchanged from each of them, and which drivers can execute it.
-/

/--
A data set that exists before the program runs.  Its partitioning and its order may be declared, as for
a file that an earlier job has written, so that later operators need not move it again.
-/
structure Source (Number : Type) where
  globally : GlobalProperties := {}
  locally : LocalProperties := {}
  records : Estimate Number := .unknown
  bytes : Estimate Number := .unknown
  deriving Repr, BEq

namespace Source

variable {Number : Type} [Arithmetic Number]

/-- The source with declared sizes. -/
def withStatistics (source : Source Number) (records bytes : Number) :
    Except (RefusedHint Number) (Source Number) := do
  let records ← Estimate.checked "estimated_records" records
  let bytes ← Estimate.checked "estimated_bytes" bytes
  return { source with records, bytes }

end Source

/-- The keys of an equality join: as many on the left as on the right, and at least one. -/
structure JoinKeys where
  left : FieldList
  right : FieldList
  nonempty : left ≠ [] := by decide
  sameLength : left.length = right.length := by decide
  deriving Repr, DecidableEq

/-- The keys of a join, provided that they pair up. -/
def JoinKeys.ofLists? (left right : FieldList) : Option JoinKeys :=
  if valid : left ≠ [] ∧ left.length = right.length then
    some ⟨left, right, valid.1, valid.2⟩
  else
    none

/-- One operator of a program. -/
inductive Operator (Number : Type) where
  | source (declared : Source Number)
  /-- Consumes the records of its input. -/
  | sink
  /-- Calls a function on every record. -/
  | map (preserved : Option FieldSet)
  /-- Calls a function on every group of records that agree on the keys. -/
  | reduce (keys : FieldSet) (combinable : Bool) (preserved : Option FieldSet)
  /-- Calls a function on every pair of records that agree on the keys. -/
  | join (keys : JoinKeys) (preserved : InputSlots FieldSet)
  /-- Calls a function on every pair of records. -/
  | cross (preserved : InputSlots FieldSet)
  deriving Repr, BEq

namespace Operator

variable {Number : Type}

/-- The name of the kind of operator. -/
def kindName : Operator Number → String
  | .source _ => "Source"
  | .sink => "Sink"
  | .map _ => "Map"
  | .reduce _ _ _ => "Reduce"
  | .join _ _ => "Join"
  | .cross _ => "Cross"

/-- Number of inputs. -/
def arity : Operator Number → Nat
  | .source _ => 0
  | .sink => 1
  | .map _ => 1
  | .reduce _ _ _ => 1
  | .join _ _ => 2
  | .cross _ => 2

/-- The drivers that can execute the operator, in order of preference among equals. -/
def drivers : Operator Number → List Driver
  | .source _ => [.sourceScan]
  | .sink => [.sinkForward]
  | .map _ => [.mapForward]
  | .reduce keys combinable _ => [.sortedReduce keys combinable]
  | .join keys _ =>
      [.repartitionHashJoin keys.left keys.right, .sortMergeJoin keys.left keys.right,
        .broadcastHashJoinFirst keys.left keys.right, .broadcastHashJoinSecond keys.left keys.right]
  | .cross _ => [.cartesianProduct]

/--
The fields of an input that are copied unchanged into the output.  Where nothing is declared, no
property of the input survives.
-/
def preserved? : Operator Number → Nat → Option FieldSet
  | .source _, _ => none
  | .sink, _ => none
  | .map preserved, _ => preserved
  | .reduce _ _ preserved, _ => preserved
  | .join _ preserved, input => preserved.get? input
  | .cross preserved, input => preserved.get? input

/-- Every driver of an operator reads as many inputs as the operator. -/
theorem arity_of_mem_drivers
    {operator : Operator Number}
    {driver : Driver}
    (member : driver ∈ operator.drivers) :
    driver.arity = operator.arity := by
  cases operator <;> simp only [drivers, List.mem_cons, List.not_mem_nil, or_false] at member
  case join =>
    rcases member with same | same | same | same <;> subst same <;> rfl
  all_goals
    subst member
    rfl

/-- A list of named values in braces. -/
def braces (fields : List (String × String)) : String :=
  " \x7b " ++ String.intercalate ", " (fields.map fun field => field.1 ++ ": " ++ field.2) ++ " \x7d"

/-- The operator in an explanation. -/
def render (operator : Operator Float) : String :=
  let details : List (String × String) :=
    match operator with
    | .source declared =>
        [("records", declared.records.describe), ("bytes", declared.bytes.describe)]
    | .sink => []
    | .map none => []
    | .map (some fields) => [("preserved", fields.render)]
    | .reduce keys combinable _ =>
        [("keys", keys.render), ("combinable", toString combinable)]
    | .join keys _ => [("left_keys", keys.left.render), ("right_keys", keys.right.render)]
    | .cross _ => []
  if details.isEmpty then
    operator.kindName
  else
    operator.kindName ++ braces details

end Operator

end Dataflow
