import Dataflow.Candidate.Dominance
import Dataflow.Program.Graph
import Dataflow.Search.Attempt

namespace Dataflow

/-!
# Enumeration of candidates

Nodes are visited so that every node comes after its inputs.  At each node all attempts on the surviving
candidates of its inputs are made, and of the candidates that come out the dominated ones are dropped.
-/

/-- What is known about a node that has been visited. -/
structure Explored (Number : Type) where
  statistics : Statistics Number
  /-- The surviving candidates. -/
  candidates : List (Candidate Number)

/-- How far an enumeration has come. -/
structure Progress (Number : Type) where
  /-- The visited nodes, by their identifiers. -/
  explored : SortedMap Nat (Explored Number) := .empty
  /-- The identifier of the next candidate. -/
  nextCandidate : Nat
  events : List (SearchEvent Number) := []

namespace Progress

variable {Number : Type}

/-- The surviving candidates of a node. -/
def candidates (progress : Progress Number) (identifier : Nat) : List (Candidate Number) :=
  match progress.explored.get? identifier with
  | some explored => explored.candidates
  | none => []

/-- The estimated output of a node. -/
def statistics (progress : Progress Number) (identifier : Nat) : Statistics Number :=
  match progress.explored.get? identifier with
  | some explored => explored.statistics
  | none => {}

/-- The progress with more events. -/
def note (progress : Progress Number) (events : List (SearchEvent Number)) : Progress Number :=
  { progress with events := progress.events ++ events }

end Progress

/-- A step that may fail, with the progress made up to the failure. -/
structure Advance (Number : Type) where
  progress : Progress Number
  failure : Option (PlanError Number) := none

/-- What an enumeration depends on. -/
structure Enumeration {Number : Type} (program : Program Number) where
  graph : Graph program
  model : CostModel Number
  /-- The number of partitions of nodes that declare none. -/
  defaultParallelism : Nat
  /-- The choice of the candidates of a node that later nodes are built on. -/
  keep : List (Candidate Number) → List (Candidate Number)

namespace Enumeration

variable {Number : Type} [Arithmetic Number] {program : Program Number}

/-- What the candidates of a node have in common. -/
def context
    (enumeration : Enumeration program)
    (progress : Progress Number)
    (ref : program.Ref) :
    NodeContext Number :=
  let node := program.node ref
  { node
    parallelism := node.parallelism.getD enumeration.defaultParallelism
    statistics := .estimate node.operator node.hints <|
      (program.inputs ref).map fun input => progress.statistics (program.identifier input) }

/-- What the attempts on a node depend on. -/
def scope
    (enumeration : Enumeration program)
    (progress : Progress Number)
    (ref : program.Ref) :
    AttemptScope Number :=
  let dependencies := program.dependencies ref
  { context := enumeration.context progress ref
    model := enumeration.model
    closes := enumeration.graph.consumedWithin dependencies
    inputs := (program.inputs ref).map fun input => progress.candidates (program.identifier input) }

/-- The drivers of a node that its restrictions admit. -/
def admittedDrivers (node : Node Number) : List Driver :=
  node.operator.drivers.filter fun driver => node.restrictions.admits driver.kind

/-- The candidates of assemblies, with consecutive identifiers. -/
def instantiateAll
    (scope : AttemptScope Number)
    (nextCandidate : Nat)
    (assemblies : List (Assembly Number)) :
    List (Candidate Number) :=
  assemblies.mapIdx fun index assembly =>
    assembly.instantiate scope.context scope.model (nextCandidate + index)

/--
The candidates that later nodes are built on.  Candidates of a branching node become choices for it only
after the others are dropped, for otherwise none of them could dominate another.
-/
def survivors
    (enumeration : Enumeration program)
    (identifier : Nat)
    (produced : List (Candidate Number)) :
    List (Candidate Number) :=
  let kept := enumeration.keep produced
  if enumeration.graph.isBranching identifier then kept.map Candidate.openBranch else kept

/-- Why none of the rows of a node led to a candidate. -/
def infeasibility (drivers : List Driver) (unmet : List Row) : Infeasibility :=
  if drivers.isEmpty then .noAdmittedDriver else .unmet unmet

/-- Build the candidates of a node whose inputs have been visited, and keep the best of them. -/
def enumerate
    (enumeration : Enumeration program)
    (progress : Progress Number)
    (ref : program.Ref) :
    Advance Number :=
  let node := program.node ref
  let scope := enumeration.scope progress ref
  let drivers := admittedDrivers node
  let attempted := (AttemptScope.rows drivers).map fun row => (row, scope.attempts row)
  let attempts := attempted.flatMap Prod.snd
  let started := progress.note <|
    .nodeStarted node.identifier node.name :: attempts.filterMap (Attempt.event? node.identifier)
  let produced := instantiateAll scope progress.nextCandidate (attempts.filterMap Attempt.assembly?)
  if produced.isEmpty then
    let unmet := (attempted.filter fun row => (row.2.filterMap Attempt.assembly?).isEmpty).map Prod.fst
    { progress := started
      failure := some <|
        .noFeasibleCandidate node.identifier node.name (infeasibility drivers unmet) }
  else
    let candidates := enumeration.survivors node.identifier produced
    let finished := started.note
      [.nodeFinished node.identifier node.name produced.length candidates]
    { progress :=
        { finished with
          explored := finished.explored.insert node.identifier
            { statistics := scope.context.statistics, candidates }
          nextCandidate := finished.nextCandidate + produced.length } }

/-- Visit a node, provided that it is to be executed in at least one partition. -/
def visit
    (enumeration : Enumeration program)
    (progress : Progress Number)
    (ref : program.Ref) :
    Advance Number :=
  if (enumeration.context progress ref).parallelism = 0 then
    { progress, failure := some (.zeroParallelism (program.identifier ref)) }
  else
    enumeration.enumerate progress ref

/-- Visit nodes one after another until one fails. -/
def visitAll
    (enumeration : Enumeration program) :
    List program.Ref → Progress Number → Advance Number
  | [], progress => { progress }
  | ref :: rest, progress =>
      let advance := enumeration.visit progress ref
      match advance.failure with
      | none => enumeration.visitAll rest advance.progress
      | some _ => advance

end Enumeration

end Dataflow
