import Dataflow.Candidate.Basic
import Dataflow.Text.Table

namespace Dataflow.Candidate

/-!
# Tables of candidates

The survivors of a node side by side, for whoever wants to know what the planner compares.
-/

/-- The ways in which the inputs are shipped and prepared. -/
def renderInputs (candidate : Candidate Float) : String :=
  String.intercalate ", " <| candidate.inputs.map fun channel =>
    channel.ship.render ++ " " ++ channel.preparation.render

/-- The row of a candidate. -/
def tableRow (weights : Weights Float) (candidate : Candidate Float) : List String :=
  [toString candidate.identifier, candidate.driver.render, candidate.renderInputs,
    candidate.globally.render, candidate.locally.render,
    Decimal.renderFixed 1 (candidate.weightedCost weights)]

/-- One row for each candidate, followed by an empty line. -/
def table (weights : Weights Float) (candidates : List (Candidate Float)) : String :=
  Text.table ["Id", "Driver", "Inputs", "Global Properties", "Local Properties", "Cost"]
    (candidates.map (tableRow weights)) ++ "\n"

end Dataflow.Candidate
