import Dataflow.Arithmetic
import Dataflow.Decimal.Format

namespace Dataflow

/-!
# Costs

A cost keeps network, disk and processor apart.  Costs are compared by their weighted sum, and only rank
plans that are all valid.
-/

/-- An amount of work. -/
structure Cost (Number : Type) where
  /-- Bytes sent over the network. -/
  network : Number
  /-- Bytes written to disk and read back. -/
  disk : Number
  /-- Work of the processor, in records. -/
  cpu : Number
  deriving Repr, BEq, DecidableEq

/-- The relative weight of each kind of work. -/
structure Weights (Number : Type) where
  network : Number
  disk : Number
  cpu : Number
  deriving Repr, BEq, DecidableEq

namespace Cost

variable {Number : Type} [Arithmetic Number]

/-- No work. -/
def zero : Cost Number := ⟨Arithmetic.zero, Arithmetic.zero, Arithmetic.zero⟩

instance : Add (Cost Number) where
  add first second :=
    ⟨first.network + second.network, first.disk + second.disk, first.cpu + second.cpu⟩

/-- The weighted sum of the three kinds of work. -/
def weighted (cost : Cost Number) (weights : Weights Number) : Number :=
  cost.network * weights.network + cost.disk * weights.disk + cost.cpu * weights.cpu

/-- The three kinds of work with their names. -/
def render (cost : Cost Float) : String :=
  "network: " ++ Decimal.renderFixed 1 cost.network ++ ", disk: " ++ Decimal.renderFixed 1 cost.disk ++
    ", cpu: " ++ Decimal.renderFixed 1 cost.cpu

end Cost

namespace Weights

variable {Number : Type} [Arithmetic Number]

/-- The weights used unless others are configured: the network is by far the slowest resource. -/
def default : Weights Number := ⟨Arithmetic.ofNat 10, Arithmetic.ofNat 1, Arithmetic.ofNat 1⟩

/-- Weights are finite and not negative. -/
def isValid (weights : Weights Number) : Bool :=
  [weights.network, weights.disk, weights.cpu].all fun weight =>
    Arithmetic.isFinite weight && !decide (weight < Arithmetic.zero)

/-- The weights in a message. -/
def render (weights : Weights Float) : String :=
  let exact := Decimal.Format.exact.render
  "CostWeights \x7b network: " ++ exact weights.network ++ ", disk: " ++ exact weights.disk ++
    ", cpu: " ++ exact weights.cpu ++ " \x7d"

end Weights

end Dataflow
