import Dataflow.Proofs.Optimizer.Tracking

namespace Dataflow

/-!
# Open branches in branch plans

The nodes that a branch plan mentions only depend on the graph: they are the branches that are open at the node
of the candidate.  What is closed at one node is closed at all nodes that depend on it.
-/

theorem SortedMap.mem_keys_iff
    {Key Entry : Type}
    [LT Key]
    [StrictTotal Key]
    [BEq Key]
    [LawfulBEq Key]
    {map : SortedMap Key Entry}
    {key : Key} :
    key ∈ map.keys ↔ ∃ entry, map.get? key = some entry := by
  simp only [keys, List.mem_map, Prod.exists, exists_and_right, exists_eq_right, mem_entries_iff_get?]

namespace Graph

variable {Number : Type} {program : Program Number} {graph : Graph program}

/-- A branching node is open where it is itself, and at nodes above it until all its consumers are below. -/
theorem WellFormed.open_iff
    (wellFormed : graph.WellFormed)
    {ref branch : program.Ref}
    (isThere : ref ∈ graph.order) :
    graph.Open ref branch ↔
      graph.isBranching (program.identifier branch) = true ∧
        (branch = ref ∨
          branch ≠ ref ∧ program.DependsOn ref branch ∧
            ∃ consumer ∈ graph.consumers branch, ¬ program.DependsOn ref consumer) := by
  constructor
  · intro isOpen
    have branchThere := wellFormed.mem_of_dependsOn isOpen.depends isThere
    refine ⟨(wellFormed.isBranching_iff branchThere).mpr isOpen.branching, ?_⟩
    by_cases same : branch = ref
    · exact .inl same
    · exact .inr ⟨same, isOpen.depends, isOpen.elsewhere⟩
  · rintro ⟨branching, same | ⟨_, depends, elsewhere⟩⟩
    · subst same
      exact .self ((wellFormed.isBranching_iff isThere).mp branching)
    · have branchThere := wellFormed.mem_of_dependsOn depends isThere
      exact ⟨depends, (wellFormed.isBranching_iff branchThere).mp branching, elsewhere⟩

/-- What is closed at a node is not open at the nodes that depend on it. -/
theorem WellFormed.not_open_of_closesBranch
    (wellFormed : graph.WellFormed)
    {ref later branch : program.Ref}
    (isThere : ref ∈ graph.order)
    (laterThere : later ∈ graph.order)
    (closes : graph.closesBranch (program.identifier branch) (program.identifier ref) = true)
    (depends : program.DependsOn later ref) :
    ¬ graph.Open later branch := by
  intro isOpen
  have branchThere := wellFormed.mem_of_dependsOn isOpen.depends laterThere
  have consumed : graph.consumedWithin (program.dependencies ref) (program.identifier branch) = true := by
    simpa [closesBranch, wellFormed.find?_identifier isThere] using closes
  obtain ⟨consumer, isConsumer, elsewhere⟩ := isOpen.elsewhere
  have isBelow := (wellFormed.consumedWithin_iff branchThere).mp consumed consumer isConsumer
  exact elsewhere (depends.trans (Program.mem_dependencies.mp isBelow))

end Graph

theorem Advance.exists_eq_of_failure_eq_none
    {Number : Type}
    {advance : Advance Number}
    (succeeded : advance.failure = none) :
    ∃ progress, advance = { progress } := by
  obtain ⟨progress, failure⟩ := advance
  exact ⟨progress, congrArg (Advance.mk progress) succeeded⟩

namespace Enumeration.Stage

variable {Number : Type} [Arithmetic Number] {program : Program Number}
variable {enumeration : Enumeration program} {progress : Progress Number} {done : List program.Ref}
variable {ref : program.Ref} {candidate : Candidate Number}

/-- A branch plan mentions the open branches, because the candidate rests on a candidate of each of them. -/
theorem mem_keys_iff_open
    (stage : enumeration.Stage done progress)
    (isDone : ref ∈ done)
    (isCandidate : candidate ∈ candidatesOf progress ref)
    {key : Nat} :
    key ∈ candidate.branchPlan.keys ↔
      ∃ branch, program.identifier branch = key ∧ enumeration.graph.Open ref branch := by
  have exact := stage.exact isDone isCandidate
  rw [SortedMap.mem_keys_iff]
  constructor
  · rintro ⟨choice, found⟩
    exact (exact.branchPlan_iff.mp found).1
  · rintro ⟨branch, rfl, isOpen⟩
    have branchDone := stage.mem_of_dependsOn isDone isOpen.depends
    obtain ⟨below, rests, isBelow⟩ := stage.exists_restsOn isOpen.depends isDone isCandidate
    have chooses := (stage.chooses_iff isDone branchDone isCandidate).mpr ⟨below, rests, isBelow, rfl⟩
    exact ⟨below.identifier, exact.branchPlan_iff.mpr ⟨⟨branch, rfl, isOpen⟩, chooses⟩⟩

/-- An entry names the only candidate of its branch that the candidate rests on. -/
theorem exists_unique_restsOn_of_entry
    (stage : enumeration.Stage done progress)
    (isDone : ref ∈ done)
    (isCandidate : candidate ∈ candidatesOf progress ref)
    {key choice : Nat}
    (found : candidate.branchPlan.get? key = some choice) :
    ∃ branch, program.identifier branch = key ∧
      ∃ below ∈ candidatesOf progress branch, candidate.RestsOn below ∧ below.identifier = choice ∧
        ∀ other ∈ candidatesOf progress branch, candidate.RestsOn other → other = below := by
  have exact := stage.exact isDone isCandidate
  obtain ⟨⟨branch, isBranch, isOpen⟩, chooses⟩ := exact.branchPlan_iff.mp found
  subst isBranch
  have branchDone := stage.mem_of_dependsOn isDone isOpen.depends
  obtain ⟨below, rests, isBelow, isChoice⟩ := (stage.chooses_iff isDone branchDone isCandidate).mp chooses
  refine ⟨branch, rfl, below, isBelow, rests, isChoice, ?_⟩
  intro other isOther restsOnOther
  exact stage.eq_of_coherentWith exact.coherent branchDone isOther isBelow restsOnOther rests

end Enumeration.Stage

namespace Optimizer

variable {Number : Type} [Arithmetic Number]
variable {optimizer : Optimizer Number} {plan : Plan Number} {graph : Graph plan.program}

/--
The branch plan of a surviving candidate mentions its own node if that is branching, and the branching nodes
below it with a consumer that is not below it.  Its entries name the candidates of these nodes that it rests
on.  So all candidates of a node mention the same nodes, and no node is mentioned above one that closes it.
-/
theorem branchPlan_mentions_open
    (accepted : Graph.ofSinks plan.program plan.sinks = .ok graph)
    {done rest : List plan.program.Ref}
    (order_eq : graph.order = done ++ rest)
    {start progress : Progress Number}
    (reached : (optimizer.enumeration plan graph).visitAll done start = { progress })
    {ref : plan.program.Ref}
    (isDone : ref ∈ done)
    {candidate : Candidate Number}
    (isCandidate : candidate ∈ Enumeration.candidatesOf progress ref) :
    (∀ key, key ∈ candidate.branchPlan.keys ↔
      ∃ branch, plan.program.identifier branch = key ∧
        graph.isBranching (plan.program.identifier branch) = true ∧
          (branch = ref ∨
            branch ≠ ref ∧ plan.program.DependsOn ref branch ∧
              ∃ consumer ∈ graph.consumers branch, ¬ plan.program.DependsOn ref consumer)) ∧
      (∀ key choice, candidate.branchPlan.get? key = some choice →
        ∃ branch, plan.program.identifier branch = key ∧
          ∃ below ∈ Enumeration.candidatesOf progress branch,
            candidate.RestsOn below ∧ below.identifier = choice ∧
              ∀ other ∈ Enumeration.candidatesOf progress branch, candidate.RestsOn other → other = below) ∧
      (∀ other ∈ Enumeration.candidatesOf progress ref,
        ∀ key, key ∈ other.branchPlan.keys ↔ key ∈ candidate.branchPlan.keys) ∧
      ∀ branch, graph.closesBranch (plan.program.identifier branch) (plan.program.identifier ref) = true →
        ∀ later ∈ done, plan.program.DependsOn later ref →
          ∀ above ∈ Enumeration.candidatesOf progress later,
            plan.program.identifier branch ∉ above.branchPlan.keys := by
  have stage := stage_of_visitAll accepted order_eq (congrArg Advance.failure reached)
  rw [reached] at stage
  have isThere := stage.mem_order isDone
  refine ⟨?_, ?_, ?_, ?_⟩
  · intro key
    rw [stage.mem_keys_iff_open isDone isCandidate]
    simp only [stage.wellFormed.open_iff isThere]
    exact Iff.rfl
  · exact fun key choice found => stage.exists_unique_restsOn_of_entry isDone isCandidate found
  · intro other isOther key
    rw [stage.mem_keys_iff_open isDone isOther, stage.mem_keys_iff_open isDone isCandidate]
  · intro branch closes later laterDone depends above isAbove mentioned
    obtain ⟨other, sameIdentifier, isOpen⟩ := (stage.mem_keys_iff_open laterDone isAbove).mp mentioned
    rw [← sameIdentifier] at closes
    exact stage.wellFormed.not_open_of_closesBranch isThere (stage.mem_order laterDone) closes depends isOpen

/-- Candidates of the left map mention the source, which the right map reads, and the join closes it. -/
theorem branchPlan_mentions_open_diamond :
    ∃ progress, (Optimizer.default.enumeration diamond ⟨List.finRange 5⟩).visitAll (List.finRange 5)
        { nextCandidate := 0 } = { progress } ∧
      (∃ candidate ∈ Enumeration.candidatesOf progress (⟨1, by decide⟩ : diamond.program.Ref),
        0 ∈ candidate.branchPlan.keys) ∧
      ∀ joined ∈ Enumeration.candidatesOf progress (⟨3, by decide⟩ : diamond.program.Ref),
        0 ∉ joined.branchPlan.keys := by
  let source : diamond.program.Ref := ⟨0, by decide⟩
  let left : diamond.program.Ref := ⟨1, by decide⟩
  let right : diamond.program.Ref := ⟨2, by decide⟩
  let join : diamond.program.Ref := ⟨3, by decide⟩
  have accepted : Graph.ofSinks diamond.program diamond.sinks = .ok ⟨List.finRange 5⟩ :=
    Graph.ofSinks_eq_ok_iff_apart.mpr ⟨by decide +kernel, by decide +kernel⟩
  obtain ⟨progress, reached⟩ : ∃ progress, (Optimizer.default.enumeration diamond ⟨List.finRange 5⟩).visitAll
      (List.finRange 5) { nextCandidate := 0 } = { progress } :=
    Advance.exists_eq_of_failure_eq_none (Option.isNone_iff_eq_none.mp (by decide +kernel))
  have someCandidate : Enumeration.candidatesOf progress left ≠ [] := by
    rw [show progress = _ from congrArg Advance.progress reached.symm]
    exact List.isEmpty_eq_false_iff.mp (by decide +kernel)
  obtain ⟨candidate, isCandidate⟩ := List.exists_mem_of_ne_nil _ someCandidate
  have leftReadsSource : diamond.program.DependsOn left source := .ofInput (by decide +kernel)
  have notBelowLeft : ¬ diamond.program.DependsOn left right := fun depends =>
    absurd (Program.mem_dependencies.mpr depends) (by decide +kernel)
  refine ⟨progress, reached, ⟨candidate, isCandidate, ?_⟩, fun joined isJoined => ?_⟩
  · exact ((branchPlan_mentions_open accepted (List.append_nil _).symm reached (by decide) isCandidate).1
      0).mpr ⟨source, by decide +kernel, by decide +kernel,
        .inr ⟨by decide, leftReadsSource, right, by decide +kernel, notBelowLeft⟩⟩
  · exact (branchPlan_mentions_open accepted (List.append_nil _).symm reached (by decide) isJoined).2.2.2
      source (by decide +kernel) join (by decide) (.self join) joined isJoined

end Optimizer

end Dataflow
