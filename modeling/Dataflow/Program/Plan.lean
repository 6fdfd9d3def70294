import Dataflow.Program.Basic
import Dataflow.Sorted.Map
import Dataflow.Text.Tree

namespace Dataflow

/-!
# Logical plans

A logical plan is a program with the sinks whose results are wanted, and the settings of the job that
computes them.
-/

/-- The settings of a job. -/
structure Job where
  name : String
  /-- The number of partitions of nodes that declare none. -/
  defaultParallelism : Option Nat := none
  maxMachines : Option Nat := none
  /-- Paths of the files that every machine gets, by name. -/
  cacheFiles : SortedMap String String := .empty
  deriving Repr, DecidableEq

namespace Job

/-- The job with one more cached file.  A name that is taken keeps its path. -/
def addCacheFile {Number : Type} (job : Job) (path name : String) : Except (PlanError Number) Job :=
  match job.cacheFiles.get? name with
  | some existingPath => .error (.duplicateCacheFile name existingPath)
  | none => .ok { job with cacheFiles := job.cacheFiles.insert name path }

end Job

/-- A program with its sinks, none of them twice, and the settings of its job. -/
structure Plan (Number : Type) where
  program : Program Number
  job : Job
  sinks : List program.Ref := []
  distinct : sinks.Nodup := by simp

namespace Plan

variable {Number : Type}

/-- The plan with one more sink.  A node that is a sink already stays one. -/
def addSink (plan : Plan Number) (sink : plan.program.Ref) : Plan Number :=
  if known : sink ∈ plan.sinks then
    plan
  else
    { plan with
      sinks := plan.sinks ++ [sink]
      distinct := by
        rw [List.nodup_append]
        refine ⟨plan.distinct, by simp, ?_⟩
        intro earlier isEarlier last isLast same
        rw [List.mem_singleton] at isLast
        exact known (isLast ▸ same ▸ isEarlier) }

end Plan

namespace Program

/-- A node above the trees of the nodes that it reads. -/
def tree (program : Program Float) (ref : program.Ref) : Text.Tree :=
  let node := program.node ref
  .node (node.name ++ ": " ++ node.operator.render) <|
    (program.inputs ref).attach.map fun input => program.tree input.val
termination_by ref.val
decreasing_by exact lt_of_mem_inputs input.property

end Program

namespace Plan

/-- One tree for each sink, in which shared nodes are repeated. -/
def explain (plan : Plan Float) : String :=
  String.join (plan.sinks.map fun sink => (plan.program.tree sink).render)

end Plan

end Dataflow
