import Dataflow.Proofs.Optimizer.Selection

namespace Dataflow

/-!
# Agreement on sinks that are read

The branch plans of sink candidates say nothing about a sink that only one node reads, because it is not a
branch.  Consistent candidates may so rest on different candidates of such a sink, and then the plan is refused.
They execute every node once exactly when each of them is the one that the others rest on for its node.
-/

namespace Candidate

variable {Number : Type}

/-- For the node of a root no other candidate is used than this root. -/
def AgreeOnRoots (roots : List (Candidate Number)) : Prop :=
  ∀ root ∈ roots, ∀ other ∈ roots, ∀ choice,
    other.Chooses root.node.identifier choice → choice = root.identifier

theorem Coherent.agreeOnRoots
    {roots : List (Candidate Number)}
    (coherent : Coherent roots) :
    AgreeOnRoots roots := by
  intro root isRoot other isOther choice chooses
  exact coherent other isOther root isRoot root.node.identifier choice root.identifier chooses
    (RestsOn.self root).chooses

end Candidate

namespace Enumeration

variable {Number : Type} [Arithmetic Number] {program : Program Number}
variable {enumeration : Enumeration program} {progress : Progress Number} {done : List program.Ref}

namespace Stage

variable {left right : program.Ref} {first second : Candidate Number}

/-- A candidate is coherent with one that it rests on. -/
theorem coherentWith_of_dependsOn
    (stage : enumeration.Stage done progress)
    (leftDone : left ∈ done)
    (rightDone : right ∈ done)
    (isFirst : first ∈ candidatesOf progress left)
    (isSecond : second ∈ candidatesOf progress right)
    (depends : program.DependsOn left right)
    (agree : ∀ choice, first.Chooses second.node.identifier choice → choice = second.identifier) :
    first.CoherentWith second := by
  obtain ⟨below, rests, isBelow⟩ := stage.exists_restsOn depends leftDone isFirst
  have sameNode : below.node.identifier = second.node.identifier := by
    rw [stage.node_eq rightDone isBelow, stage.node_eq rightDone isSecond]
  obtain rfl : below = second :=
    stage.eq_of_choice_eq rightDone isBelow isSecond (agree below.identifier (sameNode ▸ rests.chooses))
  rintro node one _ choosesOne ⟨other, restsOnOther, isNode, rfl⟩
  exact (stage.exact leftDone isFirst).coherent node one other.identifier choosesOne
    ⟨other, rests.trans restsOnOther, isNode, rfl⟩

/-- Candidates whose branch plans agree are coherent exactly when they agree on their own nodes. -/
theorem coherent_iff_agreeOnRoots
    (stage : enumeration.Stage done progress)
    {refs : List program.Ref}
    (within : ∀ ref ∈ refs, ref ∈ done)
    {chosen : List (Candidate Number)}
    (isChoice : chosen ∈ combinations (refs.map (candidatesOf progress)))
    (agree : BranchPlan.Agree (chosen.map Candidate.branchPlan)) :
    Candidate.Coherent chosen ↔ Candidate.AgreeOnRoots chosen := by
  constructor
  · exact Candidate.Coherent.agreeOnRoots
  · intro agreeOnRoots first isFirst second isSecond
    obtain ⟨left, isLeft, firstThere⟩ := (mem_of_mem_combinations_map isChoice).1 first isFirst
    obtain ⟨right, isRight, secondThere⟩ := (mem_of_mem_combinations_map isChoice).1 second isSecond
    have leftDone := within left isLeft
    have rightDone := within right isRight
    rcases Classical.em (program.DependsOn left right) with forth | notForth
    · exact stage.coherentWith_of_dependsOn leftDone rightDone firstThere secondThere forth
        (agreeOnRoots second isSecond first isFirst)
    · rcases Classical.em (program.DependsOn right left) with back | notBack
      · exact (stage.coherentWith_of_dependsOn rightDone leftDone secondThere firstThere back
          (agreeOnRoots first isFirst second isSecond)).symm
      · -- Neither node is below the other one, so only branches are below both.
        have separated : enumeration.graph.Separated left right :=
          ⟨fun forth => absurd forth notForth, fun back => absurd back notBack⟩
        apply stage.coherentWith_of_agree leftDone rightDone separated firstThere secondThere
          (stage.exact leftDone firstThere) (stage.exact rightDone secondThere)
        exact agree first.branchPlan (List.mem_map.mpr ⟨first, isFirst, rfl⟩)
          second.branchPlan (List.mem_map.mpr ⟨second, isSecond, rfl⟩)

end Stage

end Enumeration

namespace Optimizer

variable {Number : Type} [Arithmetic Number]
variable {optimizer : Optimizer Number} {plan : Plan Number} {graph : Graph plan.program}

/-- What the roots rest on is one candidate for each node of the graph, and nothing else. -/
structure OnePerNode (graph : Graph plan.program) (roots : List (Candidate Number)) : Prop where
  within : ∀ candidate, Candidate.BelowRoots roots candidate →
    ∃ ref ∈ graph.order, candidate.node = plan.program.node ref
  exists_below : ∀ ref ∈ graph.order,
    ∃ candidate, Candidate.BelowRoots roots candidate ∧ candidate.node = plan.program.node ref
  unique : ∀ first second, Candidate.BelowRoots roots first → Candidate.BelowRoots roots second →
    first.node.identifier = second.node.identifier → first = second

section Roots

variable {progress : Progress Number} {roots : List (Candidate Number)}

omit [Arithmetic Number] in
theorem explored_of_isChoice
    (accepted : Graph.ofSinks plan.program plan.sinks = .ok graph)
    (isChoice : roots ∈ combinations (sinkCandidates plan progress)) :
    ∀ root ∈ roots, Enumeration.Stage.Explored progress graph.order root := by
  intro root isRoot
  obtain ⟨sink, isSink, rootThere⟩ := (mem_of_mem_combinations_map isChoice).1 root isRoot
  exact ⟨sink, Graph.mem_order_of_mem_sinks accepted sink isSink, rootThere⟩

/-- Candidates of all sinks rest on some candidate of each node, and on one only if they are coherent. -/
theorem onePerNode_iff_coherent
    (accepted : Graph.ofSinks plan.program plan.sinks = .ok graph)
    (stage : (optimizer.enumeration plan graph).Stage graph.order progress)
    (isChoice : roots ∈ combinations (sinkCandidates plan progress)) :
    OnePerNode graph roots ↔ Candidate.Coherent roots := by
  have explored := explored_of_isChoice accepted isChoice
  rw [← Candidate.consistent_belowRoots_iff]
  constructor
  · intro onePerNode first second isFirst isSecond sameNode
    exact congrArg Candidate.identifier (onePerNode.unique first second isFirst isSecond sameNode)
  · intro consistent
    refine ⟨?_, ?_, ?_⟩
    · intro candidate isBelow
      obtain ⟨ref, isThere, isCandidate⟩ := stage.explored_of_belowRoots explored isBelow
      exact ⟨ref, isThere, stage.node_eq isThere isCandidate⟩
    · intro ref isThere
      obtain ⟨sink, isSink, depends⟩ := (Graph.mem_order_of_ofSinks accepted).mp isThere
      obtain ⟨root, isRoot, rootThere⟩ := (mem_of_mem_combinations_map isChoice).2 sink isSink
      obtain ⟨candidate, rests, isCandidate⟩ :=
        stage.exists_restsOn depends (Graph.mem_order_of_mem_sinks accepted sink isSink) rootThere
      exact ⟨candidate, ⟨root, isRoot, rests⟩, stage.node_eq isThere isCandidate⟩
    · intro first second isFirst isSecond sameNode
      exact stage.eq_of_explored (stage.explored_of_belowRoots explored isFirst)
        (stage.explored_of_belowRoots explored isSecond) sameNode
        (consistent first second isFirst isSecond sameNode)

theorem exists_collect_eq_error_iff
    (accepted : Graph.ofSinks plan.program plan.sinks = .ok graph)
    (stage : (optimizer.enumeration plan graph).Stage graph.order progress)
    (isChoice : roots ∈ combinations (sinkCandidates plan progress)) :
    (∃ node first second, roots.reverse.foldlM Candidate.collect [] =
        .error (.executedTwice node first second)) ↔
      ¬ Candidate.Coherent roots := by
  rw [← stage.exists_collected_iff_coherent (explored_of_isChoice accepted isChoice)]
  cases walked : roots.reverse.foldlM Candidate.collect [] with
  | ok collected => simp
  | error fault =>
      obtain ⟨first, second, _, _, _, _, rfl⟩ := Candidate.exists_executedTwice walked
      simp

/-- The branch plans of selected candidates agree, so only the nodes of sinks are left to compare. -/
theorem coherent_iff_of_selectSinks
    (accepted : Graph.ofSinks plan.program plan.sinks = .ok graph)
    (stage : (optimizer.enumeration plan graph).Stage graph.order progress)
    {weights : Weights Number}
    (isLeast : selectSinks weights (sinkCandidates plan progress) = some roots) :
    roots ∈ combinations (sinkCandidates plan progress) ∧
      (Candidate.Coherent roots ↔ Candidate.AgreeOnRoots roots) ∧
      (plan.sinks.Pairwise graph.Separated → Candidate.Coherent roots) := by
  obtain ⟨isChoice, consistent⟩ := List.mem_filter.mp (mem_of_firstLeast isLeast)
  have sinksThere := Graph.mem_order_of_mem_sinks accepted
  refine ⟨isChoice, ?_, ?_⟩
  · exact stage.coherent_iff_agreeOnRoots sinksThere isChoice (BranchPlan.isSome_merge?_iff_agree.mp consistent)
  · intro separated
    exact (stage.isSome_merge?_iff_coherent separated sinksThere isChoice).mp consistent

end Roots

/--
On an accepted graph the planner reports that a node would be executed twice exactly when some candidate chosen
for a sink is not the one that the other chosen ones rest on for this sink.  Otherwise the chosen ones rest on one
candidate for each node.  They always do when each sink that another sink depends on is still an open branch
there, and in particular when no sink is read.
-/
theorem executedTwice_iff_not_agreeOnRoots
    (accepted : Graph.ofSinks plan.program plan.sinks = .ok graph) :
    ((∃ node first second, (optimizer.optimize plan).outcome =
        .error (.invalidOperator (.executedTwice node first second))) ↔
      (optimizer.run plan graph).failure = none ∧
        ∃ roots, selectSinks optimizer.weights
            (sinkCandidates plan (optimizer.run plan graph).progress) = some roots ∧
          ¬ Candidate.AgreeOnRoots roots) ∧
      ((optimizer.run plan graph).failure = none →
        ∀ roots, selectSinks optimizer.weights
            (sinkCandidates plan (optimizer.run plan graph).progress) = some roots →
          (OnePerNode graph roots ↔ Candidate.AgreeOnRoots roots) ∧
            (plan.sinks.Pairwise graph.Separated → Candidate.AgreeOnRoots roots)) := by
  constructor
  · constructor
    · rintro ⟨node, first, second, failed⟩
      obtain ⟨visited, refused⟩ := (optimize_eq_invalidOperator_iff accepted).mp failed
      obtain ⟨roots, isLeast, walked⟩ := select_eq_invalidOperator_iff.mp refused
      have stage := stage_of_run accepted visited
      obtain ⟨isChoice, coherent_iff, _⟩ := coherent_iff_of_selectSinks accepted stage isLeast
      refine ⟨visited, roots, isLeast, ?_⟩
      rw [← coherent_iff]
      exact (exists_collect_eq_error_iff accepted stage isChoice).mp ⟨node, first, second, walked⟩
    · rintro ⟨visited, roots, isLeast, disagree⟩
      have stage := stage_of_run accepted visited
      obtain ⟨isChoice, coherent_iff, _⟩ := coherent_iff_of_selectSinks accepted stage isLeast
      rw [← coherent_iff] at disagree
      obtain ⟨node, first, second, walked⟩ :=
        (exists_collect_eq_error_iff accepted stage isChoice).mpr disagree
      exact ⟨node, first, second, (optimize_eq_invalidOperator_iff accepted).mpr
        ⟨visited, select_eq_invalidOperator_iff.mpr ⟨roots, isLeast, walked⟩⟩⟩
  · intro visited roots isLeast
    have stage := stage_of_run accepted visited
    obtain ⟨isChoice, coherent_iff, coherent⟩ := coherent_iff_of_selectSinks accepted stage isLeast
    exact ⟨(onePerNode_iff_coherent accepted stage isChoice).trans coherent_iff,
      fun separated => (coherent separated).agreeOnRoots⟩

/-- A join whose result is wanted itself, and is read by one other node, which groups it. -/
def readSink : Plan WholeNumber where
  program :=
    { nodes := #[
        { identifier := 0, name := "orders", operator := .source {} },
        { identifier := 1, name := "prices", operator := .source {} },
        { identifier := 2, name := "priced", inputs := [0, 1],
          operator := .join { left := [0], right := [0] } { first := some (.ofList [0]) } },
        { identifier := 3, name := "totals", inputs := [2], operator := .reduce (.ofList [0]) false none }]
      fits := by
        intro position inside
        match position, inside with
        | 0, _ => exact ⟨rfl, by simp⟩
        | 1, _ => exact ⟨rfl, by simp⟩
        | 2, _ => exact ⟨rfl, by simp⟩
        | 3, _ => exact ⟨rfl, by simp⟩ }
  job := { name := "job" }
  sinks := [⟨2, by decide⟩, ⟨3, by decide⟩]

/-- The candidates chosen for the join and for the grouping differ in how they execute the join. -/
theorem executedTwice_iff_not_agreeOnRoots_readSink :
    ∃ roots, selectSinks Optimizer.default.weights
        (sinkCandidates readSink (Optimizer.default.run readSink ⟨List.finRange 4⟩).progress) = some roots ∧
      ¬ Candidate.AgreeOnRoots roots ∧ ¬ OnePerNode (⟨List.finRange 4⟩ : Graph readSink.program) roots := by
  have accepted : Graph.ofSinks readSink.program readSink.sinks = .ok ⟨List.finRange 4⟩ :=
    Graph.ofSinks_eq_ok_iff_apart.mpr ⟨by decide +kernel, by decide +kernel⟩
  have failed : (Optimizer.default.optimize readSink).outcome =
      .error (.invalidOperator (.executedTwice "priced" 2 4)) := by decide +kernel
  obtain ⟨atFault_iff, onePerNode_iff⟩ :=
    @executedTwice_iff_not_agreeOnRoots WholeNumber _ Optimizer.default readSink _ accepted
  obtain ⟨visited, roots, isLeast, disagree⟩ := atFault_iff.mp ⟨"priced", 2, 4, failed⟩
  refine ⟨roots, isLeast, disagree, ?_⟩
  rw [(onePerNode_iff visited roots isLeast).1]
  exact disagree

/-- Planning fails on this accepted plan, because two candidates would execute the join. -/
theorem optimize_readSink :
    Graph.ofSinks readSink.program readSink.sinks = .ok ⟨List.finRange 4⟩ ∧
      (Optimizer.default.optimize readSink).outcome =
        .error (.invalidOperator (.executedTwice "priced" 2 4)) :=
  ⟨Graph.ofSinks_eq_ok_iff_apart.mpr ⟨by decide +kernel, by decide +kernel⟩, by decide +kernel⟩

end Optimizer

end Dataflow
