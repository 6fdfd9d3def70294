import Dataflow.Candidate.Assembly

namespace Dataflow

/-!
# Properties of an output

What is known of the output of an operator is what its driver derives, together with the unique combinations that
its author declares.  If the operator calls a function, the driver derives it from what the function preserves.
-/

theorem GlobalProperties.foldl_addUnique
    (properties : GlobalProperties)
    (sets : List FieldSet) :
    sets.foldl (fun grown fields => grown.addUnique fields) properties =
      { properties with uniqueSets := properties.uniqueSets.insertAll sets } := by
  induction sets generalizing properties with
  | nil => rfl
  | cons fields rest inductionHypothesis => exact inductionHypothesis (properties.addUnique fields)

theorem LocalProperties.foldl_addUnique
    (properties : LocalProperties)
    (sets : List FieldSet) :
    sets.foldl (fun grown fields => grown.addUnique fields) properties =
      { properties with uniqueSets := properties.uniqueSets.insertAll sets } := by
  induction sets generalizing properties with
  | nil => rfl
  | cons fields rest inductionHypothesis => exact inductionHypothesis (properties.addUnique fields)

/-- The operator calls a function, which may overwrite fields. -/
def Operator.CallsFunction {Number : Type} : Operator Number → Prop
  | .source _ => False
  | .sink => False
  | .map _ => True
  | .reduce _ _ _ => True
  | .join _ _ => True
  | .cross _ => True

namespace NodeContext

variable {Number : Type} {context : NodeContext Number} {driver : Driver}

theorem outputGlobal_eq
    (context : NodeContext Number)
    (driver : Driver)
    (delivered : List GlobalProperties) :
    context.outputGlobal driver delivered =
      { context.derivedGlobal driver delivered with
        uniqueSets := (context.derivedGlobal driver delivered).uniqueSets.union context.node.hints.uniqueSets } :=
  GlobalProperties.foldl_addUnique _ _

theorem outputLocal_eq
    (context : NodeContext Number)
    (driver : Driver)
    (delivered : List LocalProperties) :
    context.outputLocal driver delivered =
      { context.derivedLocal driver delivered with
        uniqueSets := (context.derivedLocal driver delivered).uniqueSets.union context.node.hints.uniqueSets } :=
  LocalProperties.foldl_addUnique _ _

theorem derivedGlobal_eq
    (callsFunction : context.node.operator.CallsFunction)
    (delivered : List GlobalProperties) :
    context.derivedGlobal driver delivered =
      driver.outputGlobal
        (delivered.mapIdx fun input properties => properties.retain (context.retained input)) := by
  unfold derivedGlobal
  split
  · rename_i isSource
    exact absurd callsFunction (isSource ▸ id)
  · rename_i isSink
    exact absurd callsFunction (isSink ▸ id)
  · rfl

theorem derivedLocal_eq
    (callsFunction : context.node.operator.CallsFunction)
    (delivered : List LocalProperties) :
    context.derivedLocal driver delivered =
      (driver.outputLocal
        (delivered.mapIdx fun input properties => properties.retain (context.retained input))).retain
          (context.retained 0) := by
  unfold derivedLocal
  split
  · rename_i isSource
    exact absurd callsFunction (isSource ▸ id)
  · rename_i isSink
    exact absurd callsFunction (isSink ▸ id)
  · rfl

end NodeContext

end Dataflow
