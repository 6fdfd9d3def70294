import Dataflow.Candidate.Channel
import Dataflow.Candidate.Assembly
import Dataflow.Search.Combinations
import Dataflow.Search.Event

namespace Dataflow

/-!
# Attempts to execute a node

A row is a driver with one combination of requirements that it accepts.  Each row is attempted on every
combination of input candidates and of channels from them.
-/

/-- A driver with one requirement for each of its inputs. -/
abbrev Row := Driver × List InputRequirement

/-- What becomes of a row on one combination of input candidates. -/
inductive Attempt (Number : Type) where
  /-- The input candidates execute a shared node differently. -/
  | disagreeing (candidates : List Nat)
  /-- The channels do not fit together. -/
  | misaligned (driver : Driver)
  | assembled (assembly : Assembly Number)

namespace Attempt

variable {Number : Type}

/-- The assembly of a successful attempt. -/
def assembly? : Attempt Number → Option (Assembly Number)
  | .assembled assembly => some assembly
  | .disagreeing _ => none
  | .misaligned _ => none

/-- The event of an attempt that failed. -/
def event? (identifier : Nat) : Attempt Number → Option (SearchEvent Number)
  | .disagreeing candidates => some (.inputsDisagree candidates identifier)
  | .misaligned driver => some (.inputsMisaligned driver identifier)
  | .assembled _ => none

end Attempt

/-- What attempts on one node depend on. -/
structure AttemptScope (Number : Type) where
  context : NodeContext Number
  model : CostModel Number
  /-- Whether no node after this one needs to agree on a branching node any more. -/
  closes : Nat → Bool
  /-- The candidates of each input. -/
  inputs : List (List (Candidate Number))

namespace AttemptScope

variable {Number : Type} [Arithmetic Number]

/-- The rows of all admitted drivers of an operator. -/
def rows (drivers : List Driver) : List Row :=
  drivers.flatMap fun driver => driver.requirements.map fun requirements => (driver, requirements)

/-- What a row requests from one of its inputs. -/
def request
    (scope : AttemptScope Number)
    (driver : Driver)
    (input : Nat)
    (requirement : InputRequirement) :
    ChannelRequest where
  requirement
  hashKeys := driver.hashKeys? input
  combinable := driver.isCombinable
  forced := scope.context.node.restrictions.shipping.get? input
  target := scope.context.parallelism

/-- The channels from each of the input candidates that meet the requirements of a row. -/
def channelOptions
    (scope : AttemptScope Number)
    (row : Row)
    (sources : List (Candidate Number)) :
    List (List (Channel Number (Candidate Number))) :=
  (sources.zip row.2).mapIdx fun input pair =>
    pair.1.channels (scope.request row.1 input pair.2) scope.model

/-- Attempt a row on a combination of channels. -/
def attemptOn
    (driver : Driver)
    (branchPlan : BranchPlan)
    (channels : List (Channel Number (Candidate Number))) :
    Attempt Number :=
  if driver.IsCompatible (channels.map Channel.globally) then
    .assembled { driver, inputs := channels, branchPlan }
  else
    .misaligned driver

/-- Attempt a row on a combination of input candidates. -/
def attemptsFrom
    (scope : AttemptScope Number)
    (row : Row)
    (sources : List (Candidate Number)) :
    List (Attempt Number) :=
  match BranchPlan.merge? (sources.map Candidate.branchPlan) with
  | none => [.disagreeing (sources.map Candidate.identifier)]
  | some merged =>
      let branchPlan := merged.filterKeys fun branch => !scope.closes branch
      (combinations (scope.channelOptions row sources)).map (attemptOn row.1 branchPlan)

/-- Attempt a row on all combinations of input candidates. -/
def attempts (scope : AttemptScope Number) (row : Row) : List (Attempt Number) :=
  (combinations scope.inputs).flatMap (scope.attemptsFrom row)

end AttemptScope

end Dataflow
