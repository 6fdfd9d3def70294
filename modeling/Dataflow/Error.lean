import Dataflow.Cost.Basic
import Dataflow.Estimate
import Dataflow.Strategy.Driver

namespace Dataflow

/-!
# Errors

Why a program cannot be built or planned, as causes with the data that a caller may want to inspect,
and the message of each cause.
-/

/-- What is wrong with the operators of a program or with their wiring. -/
inductive OperatorFault where
  /-- The keys of a join do not pair up. -/
  | unpairedKeys (left right : FieldList)
  /-- A node was added to a program that has no current data set. -/
  | missingInput (node : String)
  /-- A node reads more or fewer inputs than its operator takes. -/
  | inputCount (node operator : String) (expected actual : Nat)
  /-- Two nodes of a program have the same identifier. -/
  | sharedIdentifier (identifier : Nat) (first second : String)
  /-- Two physical candidates would execute the same node. -/
  | executedTwice (node : String) (first second : Nat)
  deriving Repr, DecidableEq

/-- Why no physical plan was found. -/
inductive Infeasibility where
  /-- The restrictions of a node exclude all its drivers. -/
  | noAdmittedDriver
  /-- No input data can meet any of these combinations of requirements. -/
  | unmet (rows : List (Driver × List InputRequirement))
  /-- The sinks have no candidates that execute shared nodes in the same way. -/
  | disagreeingSinks
  deriving Repr, DecidableEq

/-- What is wrong with a configuration. -/
inductive ConfigFault (Number : Type) where
  | zeroParallelism
  | invalidWeights (weights : Weights Number)
  /-- An assumed size is not a positive finite number. -/
  | notPositive (setting : String) (value : Number)
  deriving Repr, DecidableEq

/-- Why a program cannot be built or planned. -/
inductive PlanError (Number : Type) where
  | invalidHint (refused : RefusedHint Number)
  | duplicateCacheFile (name existingPath : String)
  | noFeasibleCandidate (identifier : Nat) (node : String) (reason : Infeasibility)
  | zeroParallelism (identifier : Nat)
  | invalidOperator (fault : OperatorFault)
  | emptyPlan
  | invalidConfig (fault : ConfigFault Number)
  deriving Repr, DecidableEq

namespace OperatorFault

/-- The fault in words. -/
def message : OperatorFault → String
  | .unpairedKeys left right =>
      "join keys " ++ left.render ++ " and " ++ right.render ++
        " must be non empty and of equal length"
  | .missingInput node => node ++ " has no input"
  | .inputCount node operator expected actual =>
      node ++ " (" ++ operator ++ ") expects " ++ toString expected ++ " inputs, got " ++
        toString actual
  | .sharedIdentifier identifier first second =>
      "node id " ++ toString identifier ++ " is used by both " ++ first ++ " and " ++ second
  | .executedTwice node first second =>
      "node " ++ node ++ " would be executed by candidates " ++ toString first ++ " and " ++
        toString second

end OperatorFault

namespace Infeasibility

/-- The reason in words. -/
def message : Infeasibility → String
  | .noAdmittedDriver => "no admissible driver strategy"
  | .unmet rows =>
      String.intercalate "; " <| rows.map fun row =>
        row.1.render ++ " [" ++ String.intercalate ", " (row.2.map InputRequirement.render) ++ "]"
  | .disagreeingSinks => "no combination of sink candidates agrees on shared nodes"

end Infeasibility

namespace ConfigFault

/-- The fault in words. -/
def message : ConfigFault Float → String
  | .zeroParallelism => "default_parallelism must be positive"
  | .invalidWeights weights => "invalid cost weights " ++ weights.render
  | .notPositive setting value =>
      setting ++ " must be positive, got " ++ Decimal.Format.plain.render value

end ConfigFault

namespace PlanError

/-- The error in words. -/
def message : PlanError Float → String
  | .invalidHint refused =>
      "Invalid value " ++ Decimal.Format.plain.render refused.value ++ " for compiler hint " ++
        refused.hint ++ ", must be >= 0"
  | .duplicateCacheFile name existingPath =>
      "Cache file " ++ name ++ " already exists, registered with path " ++ existingPath
  | .noFeasibleCandidate identifier node reason =>
      "No feasible physical plan for node " ++ toString identifier ++ " (" ++ node ++
        "), unmet requirements: " ++ reason.message
  | .zeroParallelism identifier => "Invalid parallelism 0 for node " ++ toString identifier
  | .invalidOperator fault => "Invalid operator: " ++ fault.message
  | .emptyPlan => "Plan has no data sinks"
  | .invalidConfig fault => "Invalid optimizer config: " ++ fault.message

end PlanError

end Dataflow
