import Dataflow.Proofs.Optimizer.Selection
import Dataflow.Proofs.Search.Mirroring
import Dataflow.Proofs.Search.Selection

namespace Dataflow.Optimizer

/-!
# Success under pruning

Pruning can drop every candidate on which a plan can be built.  A plan is found exactly when the run in which
nothing is dropped has a consistent choice of retained candidates for the sinks.  Which candidates are retained
depends on their costs, so that sizes can decide whether there is a plan at all.
-/

variable {Number : Type} [Arithmetic Number]
variable {optimizer : Optimizer Number} {plan : Plan Number} {graph : Graph plan.program}

/-- The run over the whole graph in which no candidate is dropped. -/
def unprunedRun (optimizer : Optimizer Number) (plan : Plan Number) (graph : Graph plan.program) :
    Advance Number :=
  (optimizer.enumeration plan graph).unpruned.visitAll graph.order
    { nextCandidate := optimizer.nextCandidate }

open Classical in
/-- The choices for the sinks that a run has are the retained ones of the run that it mirrors. -/
theorem mem_combinations_iff_retained
    {enumeration : Enumeration plan.program}
    {weights : Weights Number}
    {renumbering : Renumbering}
    {progress full : Progress Number}
    {reached : List plan.program.Ref}
    (stage : enumeration.unpruned.Stage reached full)
    (within : ∀ sink ∈ plan.sinks, sink ∈ reached)
    (mirrors : ∀ sink ∈ plan.sinks, Enumeration.Mirrors weights renumbering progress full sink)
    {chosen : List (Candidate Number)} :
    chosen ∈ combinations (sinkCandidates plan progress) ↔
      ∃ original ∈ combinations (sinkCandidates plan full),
        (∀ candidate ∈ original, Enumeration.RetainedAmong weights full plan.sinks candidate) ∧
          original.map (Candidate.renumber renumbering) = chosen := by
  have candidates_eq : combinations (sinkCandidates plan progress) =
      ((combinations (sinkCandidates plan full)).filter fun chosen => chosen.all fun candidate =>
        decide (Enumeration.RetainedAmong weights full plan.sinks candidate)).map
          (List.map (Candidate.renumber renumbering)) := by
    rw [sinkCandidates, Enumeration.Mirrors.map_candidatesOf stage within mirrors, combinations_map_map,
      combinations_map_filter]
    rfl
  simp only [candidates_eq, List.mem_map, List.mem_filter, List.all_eq_true, decide_eq_true_iff, and_assoc]

/-- A run has a consistent choice for the sinks when the run that it mirrors has one of retained candidates. -/
theorem exists_consistent_iff
    {enumeration : Enumeration plan.program}
    {weights : Weights Number}
    {renumbering : Renumbering}
    {progress full : Progress Number}
    {reached : List plan.program.Ref}
    (stage : enumeration.unpruned.Stage reached full)
    (within : ∀ sink ∈ plan.sinks, sink ∈ reached)
    (mirrors : ∀ sink ∈ plan.sinks, Enumeration.Mirrors weights renumbering progress full sink) :
    (∃ chosen ∈ combinations (sinkCandidates plan progress), areConsistent chosen = true) ↔
      ∃ chosen ∈ combinations (sinkCandidates plan full), areConsistent chosen = true ∧
        ∀ candidate ∈ chosen, Enumeration.RetainedAmong weights full plan.sinks candidate := by
  simp only [mem_combinations_iff_retained stage within mirrors]
  constructor
  · rintro ⟨_, ⟨original, isChoice, retained, rfl⟩, consistent⟩
    exact ⟨original, isChoice, areConsistent_renumber.symm.trans consistent, retained⟩
  · rintro ⟨original, isChoice, consistent, retained⟩
    exact ⟨_, ⟨original, isChoice, retained, rfl⟩, areConsistent_renumber.trans consistent⟩

theorem unprunedStage_start
    (accepted : Graph.ofSinks plan.program plan.sinks = .ok graph)
    (start : Progress Number) :
    (optimizer.enumeration plan graph).unpruned.Stage [] start :=
  .start (Graph.wellFormed_of_ofSinks accepted) (fun _ _ isKept => isKept) start

theorem unprunedStage
    (accepted : Graph.ofSinks plan.program plan.sinks = .ok graph)
    (visited : (optimizer.unprunedRun plan graph).failure = none) :
    (optimizer.enumeration plan graph).unpruned.Stage graph.order
      (optimizer.unprunedRun plan graph).progress :=
  (unprunedStage_start accepted _).visitAll (List.prefix_refl _) visited

/--
A plan whose sinks are not read is planned exactly when the run in which nothing is dropped succeeds and has a
consistent choice of retained candidates for the sinks: nothing that these are built on is dominated by a
candidate which is built on retained candidates, too.
-/
theorem exists_optimize_eq_ok_iff_retained
    (unread : SinksUnread plan) :
    (∃ physical, (optimizer.optimize plan).outcome = .ok physical) ↔
      plan.sinks ≠ [] ∧
        ∃ graph, Graph.ofSinks plan.program plan.sinks = .ok graph ∧
          (optimizer.unprunedRun plan graph).failure = none ∧
          ∃ chosen ∈ combinations (sinkCandidates plan (optimizer.unprunedRun plan graph).progress),
            areConsistent chosen = true ∧
              ∀ candidate ∈ chosen, Enumeration.RetainedAmong optimizer.weights
                (optimizer.unprunedRun plan graph).progress plan.sinks candidate := by
  have sinksThere : ∀ {graph}, Graph.ofSinks plan.program plan.sinks = .ok graph →
      ∀ sink ∈ plan.sinks, sink ∈ graph.order := fun accepted sink isSink =>
    (Graph.mem_order_of_ofSinks accepted).mpr ⟨sink, isSink, .self sink⟩
  constructor
  · rintro ⟨physical, planned⟩
    obtain ⟨someSink, graph, accepted, visited, selected⟩ := optimize_eq_ok_iff.mp planned
    have pruned := stage_of_visitAll accepted (List.append_nil _).symm visited
    have unprunedVisited : (optimizer.unprunedRun plan graph).failure = none :=
      Enumeration.unpruned_visitAll rfl (stage_start accepted _) (unprunedStage_start accepted _)
        (List.prefix_refl _) visited
    have stage := unprunedStage accepted unprunedVisited
    obtain ⟨renumbering, mirrors⟩ := Enumeration.exists_mirrors rfl pruned stage fun _ isDone => isDone
    have consistent := (exists_select_eq_ok_iff accepted unread pruned).mp ⟨physical, selected⟩
    exact ⟨someSink, graph, accepted, unprunedVisited, (exists_consistent_iff stage (sinksThere accepted)
      fun sink isSink => mirrors sink (sinksThere accepted sink isSink)).mp consistent⟩
  · rintro ⟨someSink, graph, accepted, unprunedVisited, retained⟩
    have stage := unprunedStage accepted unprunedVisited
    have someRetained : ∀ ref ∈ graph.order, ∃ candidate, Enumeration.Retained optimizer.weights
        (optimizer.unprunedRun plan graph).progress ref candidate := by
      intro ref isThere
      obtain ⟨sink, isSink, depends⟩ := (Graph.mem_order_of_ofSinks accepted).mp isThere
      obtain ⟨chosen, isChoice, _, allRetained⟩ := retained
      obtain ⟨candidate, isChosen, isCandidate⟩ := (mem_of_mem_combinations_map isChoice).2 sink isSink
      apply stage.exists_retained depends (sinksThere accepted sink isSink)
      exact ⟨candidate, (stage.retainedAmong_iff (sinksThere accepted) isSink isCandidate).mp
        (allRetained candidate isChosen)⟩
    have somePartition : ∀ ref ∈ graph.order, (plan.program.node ref).parallelism.getD
        (optimizer.enumeration plan graph).defaultParallelism ≠ 0 :=
      (optimizer.enumeration plan graph).unpruned.somePartition_of_visitAll unprunedVisited
    have visited : (optimizer.run plan graph).failure = none :=
      Enumeration.pruned_visitAll rfl (stage_start accepted _) stage (List.prefix_refl _)
        somePartition someRetained
    have pruned := stage_of_visitAll accepted (List.append_nil _).symm visited
    obtain ⟨renumbering, mirrors⟩ := Enumeration.exists_mirrors rfl pruned stage fun _ isDone => isDone
    have consistent := (exists_consistent_iff stage (sinksThere accepted)
      fun sink isSink => mirrors sink (sinksThere accepted sink isSink)).mpr retained
    obtain ⟨physical, selected⟩ := (exists_select_eq_ok_iff accepted unread pruned).mpr consistent
    exact ⟨physical, optimize_eq_ok_iff.mpr ⟨someSink, graph, accepted, visited, selected⟩⟩

/--
A join on two fields whose result is forwarded to another join on these fields.  The first join may replicate
its second input, and then passes on that its first input is hashed on one of the fields.
-/
def starved (ordered priced : WholeNumber) : Plan WholeNumber where
  program :=
    { nodes := #[
        { identifier := 0, name := "orders",
          operator := .source
            { globally := { partitioning := .hash [0] }, records := .known ⟨1⟩, bytes := .known ordered } },
        { identifier := 1, name := "prices",
          operator := .source { records := .known ⟨1⟩, bytes := .known priced } },
        { identifier := 2, name := "priced", inputs := [0, 1],
          operator := .join { left := [0, 1], right := [0, 1] } { first := some (.ofList [0, 1]) },
          restrictions := { drivers := some (.ofList [.repartitionHashJoin, .broadcastHashJoinSecond]) } },
        { identifier := 3, name := "stock",
          operator := .source { records := .known ⟨1⟩, bytes := .known ⟨1⟩ } },
        { identifier := 4, name := "available", inputs := [2, 3],
          operator := .join { left := [0, 1], right := [0, 1] } {},
          restrictions :=
            { drivers := some (.ofList [.repartitionHashJoin]), shipping := { first := some .forward } } },
        { identifier := 5, name := "sink", operator := .sink, inputs := [4] }]
      fits := by
        intro position inside
        match position, inside with
        | 0, _ => exact ⟨rfl, by simp⟩
        | 1, _ => exact ⟨rfl, by simp⟩
        | 2, _ => exact ⟨rfl, by simp⟩
        | 3, _ => exact ⟨rfl, by simp⟩
        | 4, _ => exact ⟨rfl, by simp⟩
        | 5, _ => exact ⟨rfl, by simp⟩ }
  job := { name := "job" }
  sinks := [⟨5, by show 5 < 6; decide⟩]

/-- With these sizes a candidate of the second join survives, and so does all that it is built on. -/
theorem exists_optimize_eq_ok_iff_retained_starved :
    ∃ graph, Graph.ofSinks (starved ⟨0⟩ ⟨100⟩).program (starved ⟨0⟩ ⟨100⟩).sinks = .ok graph ∧
      ∃ chosen ∈ combinations (sinkCandidates (starved ⟨0⟩ ⟨100⟩)
          (Optimizer.default.unprunedRun (starved ⟨0⟩ ⟨100⟩) graph).progress),
        areConsistent chosen = true ∧
          ∀ candidate ∈ chosen, Enumeration.RetainedAmong Optimizer.default.weights
            (Optimizer.default.unprunedRun (starved ⟨0⟩ ⟨100⟩) graph).progress
            (starved ⟨0⟩ ⟨100⟩).sinks candidate := by
  have isOk : (Optimizer.default.optimize (starved ⟨0⟩ ⟨100⟩)).outcome.isOk = true := by decide +kernel
  obtain ⟨_, graph, accepted, _, chosen⟩ :=
    (exists_optimize_eq_ok_iff_retained (by decide +kernel)).mp (exists_eq_ok_of_isOk isOk)
  exact ⟨graph, accepted, chosen⟩

/--
With other sizes the candidate of the first join that passes on the hashing on one field dominates the one that
is hashed on both.  The second join needs the latter, which the run in which nothing is dropped has.
-/
theorem optimize_starved :
    SinksUnread (starved ⟨100⟩ ⟨1⟩) ∧
      Graph.ofSinks (starved ⟨100⟩ ⟨1⟩).program (starved ⟨100⟩ ⟨1⟩).sinks = .ok ⟨List.finRange 6⟩ ∧
      (Optimizer.default.unprunedRun (starved ⟨100⟩ ⟨1⟩) ⟨List.finRange 6⟩).failure = none ∧
      (∃ chosen ∈ combinations (sinkCandidates (starved ⟨100⟩ ⟨1⟩)
          (Optimizer.default.unprunedRun (starved ⟨100⟩ ⟨1⟩) ⟨List.finRange 6⟩).progress),
        areConsistent chosen = true) ∧
      (Optimizer.default.optimize (starved ⟨100⟩ ⟨1⟩)).outcome.isOk = false ∧
      (Optimizer.default.optimize (starved ⟨0⟩ ⟨100⟩)).outcome.isOk = true :=
  ⟨by decide +kernel, Graph.ofSinks_eq_ok_iff_apart.mpr ⟨by decide +kernel, by decide +kernel⟩,
    Option.isNone_iff_eq_none.mp (by decide +kernel), by decide +kernel, by decide +kernel, by decide +kernel⟩

end Dataflow.Optimizer
