import Dataflow.Cost.Model
import Dataflow.Error

namespace Dataflow

/-!
# Configuration

The settings of the planner that do not depend on the program.
-/

/-- What the planner assumes where a program says nothing. -/
structure Config (Number : Type) where
  /-- The number of partitions of nodes that declare none in jobs that have no default. -/
  defaultParallelism : Nat
  costs : CostModel Number
  deriving Repr, BEq

namespace Config

variable {Number : Type} [Arithmetic Number]

/-- The configuration used unless another one is given. -/
def default : Config Number where
  defaultParallelism := 1
  costs := .default

/-- An assumed size must be a positive finite number. -/
def checkPositive (setting : String) (value : Number) : Except (ConfigFault Number) Unit :=
  if Arithmetic.isFinite value && decide (Arithmetic.zero < value) then
    .ok ()
  else
    .error (.notPositive setting value)

/-- The first fault of a configuration, if it has one. -/
def validate (config : Config Number) : Except (ConfigFault Number) Unit := do
  if config.defaultParallelism = 0 then
    throw .zeroParallelism
  if !config.costs.weights.isValid then
    throw (.invalidWeights config.costs.weights)
  checkPositive "heuristic_record_count" config.costs.assumedRecords
  checkPositive "heuristic_record_width" config.costs.assumedWidth

end Config

end Dataflow
