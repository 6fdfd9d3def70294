import Dataflow.Arithmetic
import Dataflow.Decimal.Format

namespace Dataflow

/-!
# Estimates

A size or count that may be unknown.  An unknown estimate is never read as a number: every combination
with it is unknown again, until a caller supplies a default.
-/

/-- A number that is either known or explicitly unknown. -/
inductive Estimate (Number : Type) where
  | unknown
  | known (value : Number)
  deriving Repr, BEq, DecidableEq, Inhabited

/-- A value that was refused for a hint, because it is negative or undefined. -/
structure RefusedHint (Number : Type) where
  hint : String
  value : Number
  deriving Repr, DecidableEq

namespace Estimate

variable {Number : Type}

/-- A known estimate, provided that the value is not negative. -/
def checked [Arithmetic Number] (hint : String) (value : Number) :
    Except (RefusedHint Number) (Estimate Number) :=
  if Arithmetic.isUndefined value || decide (value < Arithmetic.zero) then
    .error ⟨hint, value⟩
  else
    .ok (.known value)

/-- Whether a value is known. -/
def isKnown : Estimate Number → Bool
  | .known _ => true
  | .unknown => false

/-- The known value, if there is one. -/
def value? : Estimate Number → Option Number
  | .known value => some value
  | .unknown => none

/-- The estimate of an optional value. -/
def ofOption : Option Number → Estimate Number
  | some value => .known value
  | none => .unknown

/-- The known value, or a default. -/
def getD : Estimate Number → Number → Number
  | .known value, _ => value
  | .unknown, default => default

/-- Two estimates combined, unknown if either is unknown. -/
def zipWith (combine : Number → Number → Number) :
    Estimate Number → Estimate Number → Estimate Number
  | .known first, .known second => .known (combine first second)
  | _, _ => .unknown

/-- The first estimate if it is known, otherwise the second one. -/
def orElse : Estimate Number → Estimate Number → Estimate Number
  | .known value, _ => .known value
  | .unknown, other => other

/-- The estimate in a table, with two decimal places. -/
def render : Estimate Float → String
  | .known value => Decimal.renderFixed 2 value
  | .unknown => "(unknown)"

/-- The estimate in an explanation, with all its digits. -/
def describe : Estimate Float → String
  | .known value => "Known(" ++ Decimal.Format.exact.render value ++ ")"
  | .unknown => "Unknown"

end Estimate

end Dataflow
