import Dataflow.Hints
import Dataflow.Program.Operator

namespace Dataflow

/-!
# Statistics

The estimated size of a data set, and how the size of an operator's output follows from the sizes of
its inputs and its hints.
-/

/-- The estimated size of a data set. -/
structure Statistics (Number : Type) where
  records : Estimate Number := .unknown
  bytes : Estimate Number := .unknown
  deriving Repr, BEq, DecidableEq, Inhabited

namespace Statistics

variable {Number : Type} [Arithmetic Number]

/-- A ratio, unknown unless the divisor is positive. -/
def ratio : Estimate Number → Estimate Number → Estimate Number
  | .known dividend, .known divisor =>
      if Arithmetic.zero < divisor then .known (dividend / divisor) else .unknown
  | _, _ => .unknown

/-- The average width of a record, unknown for a data set without records. -/
def averageWidth (statistics : Statistics Number) : Estimate Number :=
  ratio statistics.bytes statistics.records

/-- The number of records in one of the inputs. -/
def recordsOf (inputs : List (Statistics Number)) (input : Nat) : Estimate Number :=
  match inputs[input]? with
  | some statistics => statistics.records
  | none => .unknown

/-- How often the function behind an operator is called; sources and sinks have no function. -/
def calls (operator : Operator Number) (hints : Hints Number) (inputs : List (Statistics Number)) :
    Estimate Number :=
  match operator with
  | .source _ => .unknown
  | .sink => .unknown
  | .map _ => recordsOf inputs 0
  | .reduce keys _ _ =>
      (hints.distinctCount keys).orElse (ratio (recordsOf inputs 0) (hints.groupSize keys))
  | .join _ _ => .zipWith Arithmetic.max (recordsOf inputs 0) (recordsOf inputs 1)
  | .cross _ => .zipWith (· * ·) (recordsOf inputs 0) (recordsOf inputs 1)

/-- The width of an output record when no hint tells it: that of the input, or of a pair. -/
def inheritedWidth : List (Statistics Number) → Estimate Number
  | [single] => single.averageWidth
  | [first, second] => .zipWith (· + ·) first.averageWidth second.averageWidth
  | _ => .unknown

/-- The size of what a function emits. -/
def emitted (operator : Operator Number) (hints : Hints Number) (inputs : List (Statistics Number)) :
    Statistics Number :=
  let records := .zipWith (· * ·) (calls operator hints inputs) hints.emitted
  let width := hints.width.orElse (inheritedWidth inputs)
  { records, bytes := .zipWith (· * ·) records width }

/-- The size of an operator's output. -/
def estimate (operator : Operator Number) (hints : Hints Number) (inputs : List (Statistics Number)) :
    Statistics Number :=
  match operator with
  | .source declared => { records := declared.records, bytes := declared.bytes }
  | .sink => inputs.headD {}
  | _ => emitted operator hints inputs

/-- Both estimates with their names. -/
def render (statistics : Statistics Float) : String :=
  "records: " ++ statistics.records.render ++ ", bytes: " ++ statistics.bytes.render

end Statistics

end Dataflow
