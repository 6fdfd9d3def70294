import Dataflow.Proofs.Optimizer.Validity
import Dataflow.Proofs.Program.Coverage
import Dataflow.Proofs.Sizes.Propagation

namespace Dataflow

/-!
# Sizes in plans

The sizes that a run notes for nodes are those that follow from the sources along the program.  They do not depend on
which candidates survive, and what is known of them stays when more becomes known of the sources.
-/

namespace Enumeration

variable {Number : Type} [Arithmetic Number] {program : Program Number}
variable {enumeration : Enumeration program} {progress : Progress Number} {done : List program.Ref}

/-- The sizes of the visited nodes have been estimated along the program, for all their candidates alike. -/
structure NotesSizes (progress : Progress Number) (done : List program.Ref) : Prop where
  statistics : ∀ ref ∈ done, progress.statistics (program.identifier ref) = program.estimated ref
  candidates : ∀ ref ∈ done, ∀ candidate ∈ candidatesOf progress ref,
    candidate.statistics = program.estimated ref

theorem statistics_of_mem_produced
    {ref : program.Ref}
    {number : Nat}
    {candidate : Candidate Number}
    (isProduced : candidate ∈ enumeration.produced progress ref number) :
    candidate.statistics = (enumeration.context progress ref).statistics := by
  obtain ⟨_, _, _, rfl⟩ := mem_produced_iff.mp isProduced
  rfl

namespace Stage

theorem statistics_eq_estimated
    (stage : enumeration.Stage done progress)
    (ref : program.Ref)
    (isDone : ref ∈ done) :
    progress.statistics (program.identifier ref) = program.estimated ref := by
  induction position : ref.val using Nat.strongRecOn generalizing ref with
  | _ position inductionHypothesis =>
      subst position
      have inputs_eq : ((program.inputs ref).map fun input => progress.statistics (program.identifier input)) =
          (program.inputs ref).map program.estimated := by
        apply List.map_congr_left
        intro input isInput
        exact inductionHypothesis input.val (Program.lt_of_mem_inputs isInput) input
          (stage.mem_of_dependsOn isDone (.ofInput isInput)) rfl
      rw [stage.settled.statistics_eq ref isDone, Program.estimated_eq, ← inputs_eq]
      rfl

theorem notesSizes (stage : enumeration.Stage done progress) : NotesSizes progress done where
  statistics := stage.statistics_eq_estimated
  candidates := by
    intro ref isDone candidate isCandidate
    obtain ⟨number, candidates_eq⟩ := stage.settled.candidates_eq ref isDone
    rw [candidatesOf, candidates_eq, survivors_eq_map_opened] at isCandidate
    obtain ⟨original, isKept, rfl⟩ := List.mem_map.mp isCandidate
    rw [statistics_opened, statistics_of_mem_produced (stage.keeps _ original isKept),
      ← stage.settled.statistics_eq ref isDone, stage.statistics_eq_estimated ref isDone]

end Stage

end Enumeration

namespace Optimizer

variable {Number : Type} [Arithmetic Number]
variable {optimizer : Optimizer Number} {plan : Plan Number}

/-- The nodes of a physical plan are those that the sinks reach, with the sizes estimated for them. -/
structure ShowsSizes (plan : Plan Number) (physical : PhysicalPlan Number) : Prop where
  reached : ∀ node ∈ physical.nodes, ∃ ref, plan.program.Reaches plan.sinks ref ∧
    node.identifier = plan.program.identifier ref ∧ node.statistics = plan.program.estimated ref
  shown : ∀ ref, plan.program.Reaches plan.sinks ref → ∃ node ∈ physical.nodes,
    node.identifier = plan.program.identifier ref ∧ node.statistics = plan.program.estimated ref

/-- What has been collected below the sinks shows the sizes that were noted. -/
theorem showsSizes_of_collected
    {graph : Graph plan.program}
    {progress : Progress Number}
    (accepted : Graph.ofSinks plan.program plan.sinks = .ok graph)
    (stage : (optimizer.enumeration plan graph).Stage graph.order progress)
    {roots collected : List (Candidate Number)}
    (isChoice : roots ∈ combinations (sinkCandidates plan progress))
    (walked : roots.reverse.foldlM Candidate.collect [] = .ok collected)
    (default : Candidate Number) :
    ShowsSizes plan
      { job := plan.job
        nodes := ((graph.order.map plan.program.identifier).filterMap fun identifier =>
          collected.find? fun candidate => candidate.node.identifier == identifier).map
            PhysicalNode.ofCandidate
        sinks := roots.map fun candidate => candidate.node.identifier } := by
  have realises := realises_of_collected accepted stage isChoice walked default
  have rootsExplored : ∀ root ∈ roots, Enumeration.Stage.Explored progress graph.order root := by
    intro root isRoot
    obtain ⟨sink, isSink, isThere⟩ := (mem_of_mem_combinations_map isChoice).1 root isRoot
    exact ⟨sink, Graph.mem_order_of_mem_sinks accepted sink isSink, isThere⟩
  obtain ⟨isCollected, _⟩ := stage.collected_of_walked rootsExplored walked
  have reached : ∀ node ∈ ((graph.order.map plan.program.identifier).filterMap fun identifier =>
      collected.find? fun candidate => candidate.node.identifier == identifier).map PhysicalNode.ofCandidate,
      ∃ ref ∈ graph.order, node.identifier = plan.program.identifier ref ∧
        node.statistics = plan.program.estimated ref := by
    intro node isNode
    obtain ⟨candidate, isChosen, rfl⟩ := List.mem_map.mp isNode
    obtain ⟨_, _, found⟩ := List.mem_filterMap.mp isChosen
    obtain ⟨ref, isThere, isCandidate⟩ := isCollected.explored candidate (List.mem_of_find?_eq_some found)
    refine ⟨ref, isThere, ?_, stage.notesSizes.candidates ref isThere candidate isCandidate⟩
    exact congrArg Node.identifier (stage.node_eq isThere isCandidate)
  constructor
  · intro node isNode
    obtain ⟨ref, isThere, sameIdentifier, sameSizes⟩ := reached node isNode
    exact ⟨ref, (Graph.reaches_iff_mem_order accepted).mpr isThere, sameIdentifier, sameSizes⟩
  · intro ref isReached
    have isThere := (Graph.reaches_iff_mem_order accepted).mp isReached
    have isNode := List.mem_map_of_mem (f := fun ref => PhysicalNode.ofCandidate
      (Enumeration.Stage.chosenFor plan.program collected default ref)) isThere
    rw [← realises.nodes_eq] at isNode
    have sameIdentifier := congrArg Node.identifier (realises.executes ref isThere).node_eq
    obtain ⟨other, otherThere, otherIdentifier, otherSizes⟩ := reached _ isNode
    obtain rfl : other = ref :=
      stage.wellFormed.apart other otherThere ref isThere (otherIdentifier.symm.trans sameIdentifier)
    exact ⟨_, isNode, otherIdentifier, otherSizes⟩

theorem showsSizes_of_optimize
    {physical : PhysicalPlan Number}
    (planned : (optimizer.optimize plan).outcome = .ok physical) :
    ShowsSizes plan physical := by
  obtain ⟨someSink, graph, accepted, visited, selected⟩ := optimize_eq_ok_iff.mp planned
  obtain ⟨roots, isLeast, written⟩ := select_eq_ok_iff.mp selected
  obtain ⟨collected, walked, rfl⟩ := PhysicalPlan.ofCandidates_eq_ok_iff.mp written
  have stage := stage_of_visitAll accepted (List.append_nil graph.order).symm visited
  have isChoice : roots ∈ combinations (sinkCandidates plan (optimizer.run plan graph).progress) :=
    (List.mem_filter.mp (mem_of_firstLeast isLeast)).1
  obtain ⟨sink, isSink⟩ := List.exists_mem_of_ne_nil _ someSink
  obtain ⟨root, _, _⟩ := (mem_of_mem_combinations_map isChoice).2 sink isSink
  exact showsSizes_of_collected accepted stage isChoice walked root

/-- A known size of a node in a plan stays as it is when more sizes of sources become known. -/
structure KeepsKnownSizes (optimizer : Optimizer Number) (plan : Plan Number) (more : Nat → Statistics Number) :
    Prop where
  estimated : ∀ ref, (plan.program.estimated ref).RefinedBy
    ((plan.inform more).program.estimated (plan.program.informedRef more ref))
  planned : ∀ physical informed, (optimizer.optimize plan).outcome = .ok physical →
    (optimizer.optimize (plan.inform more)).outcome = .ok informed →
    ∀ node ∈ physical.nodes, ∃ other ∈ informed.nodes, other.identifier = node.identifier ∧
      node.statistics.RefinedBy other.statistics

theorem keepsKnownSizes
    (optimizer : Optimizer Number)
    (plan : Plan Number)
    (more : Nat → Statistics Number) :
    optimizer.KeepsKnownSizes plan more where
  estimated := plan.program.estimated_refinedBy more
  planned := by
    intro physical informed planned replanned node isNode
    obtain ⟨ref, ⟨sink, isSink, depends⟩, sameIdentifier, sizes_eq⟩ :=
      (showsSizes_of_optimize planned).reached node isNode
    have stillReached : (plan.inform more).program.Reaches (plan.inform more).sinks
        (plan.program.informedRef more ref) :=
      ⟨_, List.mem_map_of_mem isSink, depends.inform more⟩
    obtain ⟨other, isOther, otherIdentifier, otherSizes_eq⟩ :=
      (showsSizes_of_optimize replanned).shown _ stillReached
    refine ⟨other, isOther, ?_, ?_⟩
    · rw [otherIdentifier, sameIdentifier]
      exact Program.identifier_inform
    · rw [sizes_eq, otherSizes_eq]
      exact plan.program.estimated_refinedBy more ref

/--
The size of an output is known exactly when it is derived from known numbers, and it is refined when its inputs are.
What a run notes for a node are the sizes that follow from the sources, as far as it has come.  So no size that is known
of a node in a plan changes when sizes of sources that were unknown become known.
-/
theorem known_sizes_kept (optimizer : Optimizer Number) :
    (∀ (operator : Operator Number) (hints : Hints Number) (inputs informed : List (Statistics Number)),
      Statistics.AllRefinedBy inputs informed →
        (Statistics.estimate operator hints inputs).RefinedBy (Statistics.estimate operator hints informed)) ∧
      (∀ (operator : Operator Number) (hints : Hints Number) (inputs : List (Statistics Number)) measure value,
        (Statistics.estimate operator hints inputs).size measure = .known value ↔
          Statistics.Derives hints inputs operator measure value) ∧
      (∀ (plan : Plan Number) graph done rest start,
        Graph.ofSinks plan.program plan.sinks = .ok graph → graph.order = done ++ rest →
        ((optimizer.enumeration plan graph).visitAll done start).failure = none →
          Enumeration.NotesSizes ((optimizer.enumeration plan graph).visitAll done start).progress done) ∧
      ∀ (plan : Plan Number) (more : Nat → Statistics Number), optimizer.KeepsKnownSizes plan more := by
  refine ⟨fun operator hints _ _ refined => Statistics.estimate_refinedBy operator hints refined,
    fun _ _ _ _ _ => Statistics.size_estimate_eq_known_iff, ?_, optimizer.keepsKnownSizes⟩
  intro plan graph done rest start accepted order_eq visited
  exact (stage_of_visitAll accepted order_eq visited).notesSizes

/-- People are counted by town, in groups of a declared size, and matched with towns of which nothing is known. -/
def census : Plan WholeNumber where
  program :=
    { nodes := #[
        { identifier := 0, name := "people", operator := .source { records := .known ⟨100⟩ } },
        { identifier := 1, name := "towns", operator := .source {} },
        { identifier := 2, name := "counts", inputs := [0],
          operator := .reduce (.ofList [2]) false none,
          hints := { emitted := .known ⟨1⟩, groupSizes := SortedMap.empty.insert (.ofList [2]) ⟨4⟩ } },
        { identifier := 3, name := "counted", inputs := [2, 1],
          operator := .join { left := [2], right := [5] } {}, hints := { emitted := .known ⟨1⟩ } },
        { identifier := 4, name := "sink", operator := .sink, inputs := [3] }]
      fits := by
        intro position inside
        match position, inside with
        | 0, _ => exact ⟨rfl, by simp⟩
        | 1, _ => exact ⟨rfl, by simp⟩
        | 2, _ => exact ⟨rfl, by simp⟩
        | 3, _ => exact ⟨rfl, by simp⟩
        | 4, _ => exact ⟨rfl, by simp⟩ }
  job := { name := "job" }
  sinks := [⟨4, by decide⟩]

/-- All records have 20 bytes, and there are 30 towns.  The other number of people is not the declared one. -/
def surveyed (position : Nat) : Statistics WholeNumber :=
  if position = 0 then
    { records := .known ⟨7⟩, bytes := .known ⟨2000⟩ }
  else
    { records := .known ⟨30⟩, bytes := .known ⟨600⟩ }

/-- The number of counted towns is known from the start, and stays when the other sizes become known. -/
theorem known_sizes_kept_census :
    ∃ physical informed, (Optimizer.default.optimize census).outcome = .ok physical ∧
      (Optimizer.default.optimize (census.inform surveyed)).outcome = .ok informed ∧
      (∀ node ∈ physical.nodes, ∃ other ∈ informed.nodes, other.identifier = node.identifier ∧
        node.statistics.RefinedBy other.statistics) ∧
      census.program.estimated ⟨2, by decide⟩ = { records := .known ⟨25⟩ } ∧
      ((census.inform surveyed).program.estimated (census.program.informedRef surveyed ⟨2, by decide⟩)).records =
        .known ⟨25⟩ := by
  have isOk : (Optimizer.default.optimize census).outcome.isOk = true := by decide +kernel
  have informedIsOk : (Optimizer.default.optimize (census.inform surveyed)).outcome.isOk = true := by
    decide +kernel
  obtain ⟨physical, planned⟩ := exists_eq_ok_of_isOk isOk
  obtain ⟨informed, replanned⟩ := exists_eq_ok_of_isOk informedIsOk
  have kept := (known_sizes_kept Optimizer.default).2.2.2 census surveyed
  have counted : census.program.estimated ⟨2, by decide⟩ = { records := .known ⟨25⟩ } := by decide +kernel
  refine ⟨physical, informed, planned, replanned, kept.planned physical informed planned replanned, counted, ?_⟩
  have refined := kept.estimated ⟨2, by decide⟩
  rw [counted] at refined
  exact Estimate.refinedBy_iff.mp refined.records _ rfl

end Optimizer

end Dataflow
