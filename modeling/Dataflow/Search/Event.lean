import Dataflow.Candidate.Table
import Dataflow.Text.Quoted

namespace Dataflow

/-!
# Search events

What happens while a plan is searched for, as data, with the level and the message of each event.
-/

/-- How important an event is. -/
inductive EventLevel where
  | info
  | debug
  | trace
  deriving Repr, DecidableEq

/-- Something that happens during a search. -/
inductive SearchEvent (Number : Type) where
  | jobStarted (job : String)
  | graphCollected (size : Nat)
  | nodeStarted (identifier : Nat) (node : String)
  /-- Input candidates were not used together because they execute a shared node differently. -/
  | inputsDisagree (candidates : List Nat) (identifier : Nat)
  /-- A driver was not used because its inputs are not partitioned alike. -/
  | inputsMisaligned (driver : Driver) (identifier : Nat)
  /-- So many candidates were built, and these ones are left after pruning. -/
  | nodeFinished
      (identifier : Nat)
      (node : String)
      (total : Nat)
      (survivors : List (Candidate Number))
  | selectionStarted
  | jobFinished (job : String) (cost : Number)

namespace SearchEvent

/-- The level of an event. -/
def level {Number : Type} : SearchEvent Number → EventLevel
  | .inputsDisagree _ _ => .trace
  | .inputsMisaligned _ _ => .trace
  | .nodeFinished _ _ _ _ => .debug
  | _ => .info

/-- The event in words; survivors are shown in a table with their weighted costs. -/
def message (weights : Weights Float) : SearchEvent Float → String
  | .jobStarted job => "Beginning to optimize job " ++ Text.quoted job
  | .graphCollected size => "Plan graph has " ++ toString size ++ " nodes"
  | .nodeStarted identifier node =>
      "Beginning to enumerate candidates of node " ++ toString identifier ++ " (" ++ node ++ ")"
  | .inputsDisagree candidates identifier =>
      "Skipping inputs [" ++ String.intercalate ", " (candidates.map toString) ++ "] of node " ++
        toString identifier ++ ", they disagree on a shared node"
  | .inputsMisaligned driver identifier =>
      "Skipping " ++ driver.render ++ " of node " ++ toString identifier ++
        ", inputs are not co-partitioned"
  | .nodeFinished identifier node total survivors =>
      "Node " ++ toString identifier ++ " (" ++ node ++ "): " ++ toString total ++
        " candidates, " ++ toString survivors.length ++ " after pruning\n" ++
        Candidate.table weights survivors
  | .selectionStarted => "Beginning to select sink candidates"
  | .jobFinished job cost =>
      "Optimized job " ++ Text.quoted job ++ ", total weighted cost " ++
        Decimal.renderFixed 2 cost

end SearchEvent

end Dataflow
