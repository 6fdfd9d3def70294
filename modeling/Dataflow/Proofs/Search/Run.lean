import Dataflow.Proofs.Candidate.Coherence
import Dataflow.Proofs.Program.Consumers
import Dataflow.Proofs.Search.Production

namespace Dataflow.Enumeration

/-!
# Runs of an enumeration

A visit only adds the node that it visits.  What the attempts on a node depend on is therefore the same
at the end of a run as when the node was visited, so that the outcome of a run is described by one
equation for each visited node.
-/

variable {Number : Type} [Arithmetic Number] {program : Program Number}
variable {enumeration : Enumeration program} {progress : Progress Number} {ref : program.Ref}

/-- A candidate as later nodes see it, which is a choice for its node if that node is branching. -/
def opened
    (enumeration : Enumeration program)
    (identifier : Nat)
    (candidate : Candidate Number) :
    Candidate Number :=
  if enumeration.graph.isBranching identifier then candidate.openBranch else candidate

section Opened

variable {enumeration : Enumeration program} {identifier : Nat} {candidate : Candidate Number}

omit [Arithmetic Number]

@[simp]
theorem identifier_opened : (enumeration.opened identifier candidate).identifier = candidate.identifier := by
  unfold opened
  split <;> rfl

@[simp]
theorem node_opened : (enumeration.opened identifier candidate).node = candidate.node := by
  unfold opened
  split <;> rfl

@[simp]
theorem inputs_opened : (enumeration.opened identifier candidate).inputs = candidate.inputs := by
  unfold opened
  split <;> rfl

@[simp]
theorem globally_opened : (enumeration.opened identifier candidate).globally = candidate.globally := by
  unfold opened
  split <;> rfl

@[simp]
theorem locally_opened : (enumeration.opened identifier candidate).locally = candidate.locally := by
  unfold opened
  split <;> rfl

@[simp]
theorem statistics_opened : (enumeration.opened identifier candidate).statistics = candidate.statistics := by
  unfold opened
  split <;> rfl

@[simp]
theorem parallelism_opened :
    (enumeration.opened identifier candidate).parallelism = candidate.parallelism := by
  unfold opened
  split <;> rfl

@[simp]
theorem cumulativeCost_opened :
    (enumeration.opened identifier candidate).cumulativeCost = candidate.cumulativeCost := by
  unfold opened
  split <;> rfl

@[simp]
theorem chooses_opened {node choice : Nat} :
    (enumeration.opened identifier candidate).Chooses node choice ↔ candidate.Chooses node choice := by
  unfold opened
  split
  · exact Candidate.chooses_openBranch
  · rfl

end Opened

omit [Arithmetic Number] in
theorem survivors_eq_map_opened
    (identifier : Nat)
    (produced : List (Candidate Number)) :
    enumeration.survivors identifier produced =
      (enumeration.keep produced).map (enumeration.opened identifier) := by
  unfold survivors opened
  split
  · rfl
  · exact (List.map_id _).symm

theorem filterMap_attempted_eq
    (enumeration : Enumeration program)
    (progress : Progress Number)
    (ref : program.Ref) :
    (((AttemptScope.rows (admittedDrivers (program.node ref))).map fun row =>
      (row, (enumeration.scope progress ref).attempts row)).flatMap Prod.snd).filterMap
        Attempt.assembly? = enumeration.assemblies progress ref := by
  rw [assemblies, List.flatMap_map]

/-- A visit succeeds when the node runs in some partition and one of the attempts on it succeeds. -/
theorem visit_failure_eq_none_iff :
    (enumeration.visit progress ref).failure = none ↔
      (enumeration.context progress ref).parallelism ≠ 0 ∧ enumeration.assemblies progress ref ≠ [] := by
  unfold visit
  split
  · rename_i noPartition
    simp [noPartition]
  · rename_i somePartition
    unfold enumerate
    simp only [filterMap_attempted_eq]
    split <;> simp_all [instantiateAll]

theorem explored_visit
    (succeeded : (enumeration.visit progress ref).failure = none) :
    (enumeration.visit progress ref).progress.explored =
      progress.explored.insert (program.identifier ref)
        { statistics := (enumeration.context progress ref).statistics
          candidates := enumeration.survivors (program.identifier ref)
            (enumeration.produced progress ref progress.nextCandidate) } := by
  unfold visit at succeeded ⊢
  split at succeeded
  · exact absurd succeeded (by simp)
  · rename_i somePartition
    rw [if_neg somePartition]
    unfold enumerate at succeeded ⊢
    simp only [filterMap_attempted_eq] at succeeded ⊢
    split at succeeded
    · exact absurd succeeded (by simp)
    · rename_i someCandidate
      rw [if_neg someCandidate]
      rfl

theorem candidates_visit
    (succeeded : (enumeration.visit progress ref).failure = none)
    (identifier : Nat) :
    (enumeration.visit progress ref).progress.candidates identifier =
      if identifier = program.identifier ref then
        enumeration.survivors identifier (enumeration.produced progress ref progress.nextCandidate)
      else
        progress.candidates identifier := by
  rw [Progress.candidates, explored_visit succeeded, SortedMap.get?_insert]
  by_cases same : identifier = program.identifier ref <;> simp [same, Progress.candidates]

theorem statistics_visit
    (succeeded : (enumeration.visit progress ref).failure = none)
    (identifier : Nat) :
    (enumeration.visit progress ref).progress.statistics identifier =
      if identifier = program.identifier ref then
        (enumeration.context progress ref).statistics
      else
        progress.statistics identifier := by
  rw [Progress.statistics, explored_visit succeeded, SortedMap.get?_insert]
  by_cases same : identifier = program.identifier ref <;> simp [same, Progress.statistics]

/-- A visit changes nothing for the nodes that do not read the visited one. -/
theorem scope_visit
    (succeeded : (enumeration.visit progress ref).failure = none)
    {other : program.Ref}
    (notRead : ∀ input ∈ program.inputs other, program.identifier input ≠ program.identifier ref) :
    enumeration.scope (enumeration.visit progress ref).progress other =
      enumeration.scope progress other := by
  have sameStatistics : ((program.inputs other).map fun input =>
      (enumeration.visit progress ref).progress.statistics (program.identifier input)) =
        (program.inputs other).map fun input => progress.statistics (program.identifier input) := by
    apply List.map_congr_left
    intro input isInput
    rw [statistics_visit succeeded, if_neg (notRead input isInput)]
  have sameCandidates : ((program.inputs other).map fun input =>
      (enumeration.visit progress ref).progress.candidates (program.identifier input)) =
        (program.inputs other).map fun input => progress.candidates (program.identifier input) := by
    apply List.map_congr_left
    intro input isInput
    rw [candidates_visit succeeded, if_neg (notRead input isInput)]
  simp only [scope, context, sameStatistics, sameCandidates]

/-- What comes out of a visit only depends on the scope of the node. -/
theorem produced_congr
    {later : Progress Number}
    (sameScope : enumeration.scope later ref = enumeration.scope progress ref)
    (number : Nat) :
    enumeration.produced later ref number = enumeration.produced progress ref number := by
  simp only [produced, assemblies, sameScope]

/-- What is known of every visited node follows from what is known of its inputs. -/
structure Settled
    (enumeration : Enumeration program)
    (done : List program.Ref)
    (progress : Progress Number) : Prop where
  candidates_eq : ∀ ref ∈ done, ∃ number,
    progress.candidates (program.identifier ref) =
      enumeration.survivors (program.identifier ref) (enumeration.produced progress ref number)
  statistics_eq : ∀ ref ∈ done,
    progress.statistics (program.identifier ref) = (enumeration.context progress ref).statistics

theorem Settled.visit
    {done : List program.Ref}
    (settled : enumeration.Settled done progress)
    (inputsFirst : Program.InputsFirst (done ++ [ref]))
    (apart : program.IdentifiersApart (done ++ [ref]))
    (succeeded : (enumeration.visit progress ref).failure = none) :
    enumeration.Settled (done ++ [ref]) (enumeration.visit progress ref).progress := by
  have isNew : ref ∉ done := fun isDone =>
    (List.nodup_append.mp inputsFirst.nodup).2.2 ref isDone ref (.head _) rfl
  have otherIdentifier : ∀ other ∈ done, program.identifier other ≠ program.identifier ref := by
    intro other isDone same
    exact isNew (apart other (by simp [isDone]) ref (by simp) same ▸ isDone)
  have doneInputsFirst := inputsFirst.of_append
  have sameScope : ∀ other ∈ done ++ [ref],
      enumeration.scope (enumeration.visit progress ref).progress other =
        enumeration.scope progress other := by
    intro other isThere
    apply scope_visit succeeded
    intro input isInput
    rcases List.mem_append.mp isThere with isDone | isLast
    · exact otherIdentifier input (doneInputsFirst.mem_of_dependsOn (.ofInput isInput) isDone)
    · rw [List.mem_singleton] at isLast
      subst isLast
      exact otherIdentifier input (inputsFirst.inputsBefore rfl input isInput)
  have sameContext : ∀ other ∈ done ++ [ref],
      enumeration.context (enumeration.visit progress ref).progress other =
        enumeration.context progress other :=
    fun other isThere => congrArg AttemptScope.context (sameScope other isThere)
  constructor
  · intro other isThere
    rcases List.mem_append.mp isThere with isDone | isLast
    · obtain ⟨number, candidates_eq⟩ := settled.candidates_eq other isDone
      refine ⟨number, ?_⟩
      rw [candidates_visit succeeded, if_neg (otherIdentifier other isDone), candidates_eq,
        produced_congr (sameScope other isThere)]
    · rw [List.mem_singleton] at isLast
      subst isLast
      refine ⟨progress.nextCandidate, ?_⟩
      rw [candidates_visit succeeded, if_pos rfl, produced_congr (sameScope other isThere)]
  · intro other isThere
    rw [sameContext other isThere, statistics_visit succeeded]
    rcases List.mem_append.mp isThere with isDone | isLast
    · rw [if_neg (otherIdentifier other isDone), settled.statistics_eq other isDone]
    · rw [List.mem_singleton] at isLast
      rw [isLast, if_pos rfl]

/-- A run goes on when the visit of its first node succeeds. -/
theorem visitAll_eq_of_visit
    {rest : List program.Ref}
    (visited : (enumeration.visit progress ref).failure = none) :
    enumeration.visitAll (ref :: rest) progress =
      enumeration.visitAll rest (enumeration.visit progress ref).progress := by
  rw [visitAll, visited]

theorem visitAll_cons
    {rest : List program.Ref}
    (succeeded : (enumeration.visitAll (ref :: rest) progress).failure = none) :
    (enumeration.visit progress ref).failure = none ∧
      enumeration.visitAll (ref :: rest) progress =
        enumeration.visitAll rest (enumeration.visit progress ref).progress := by
  cases visited : (enumeration.visit progress ref).failure with
  | none => exact ⟨rfl, visitAll_eq_of_visit visited⟩
  | some failure => simp [visitAll, visited] at succeeded

/-- No operator is at fault when a visit fails. -/
theorem visit_failure_ne_invalidOperator {fault : OperatorFault} :
    (enumeration.visit progress ref).failure ≠ some (.invalidOperator fault) := by
  unfold visit
  split
  · simp
  · unfold enumerate
    simp only [filterMap_attempted_eq]
    split <;> simp

theorem visitAll_failure_ne_invalidOperator
    {refs : List program.Ref}
    {fault : OperatorFault} :
    (enumeration.visitAll refs progress).failure ≠ some (.invalidOperator fault) := by
  induction refs generalizing progress with
  | nil => simp [visitAll]
  | cons ref rest inductionHypothesis =>
      cases visited : (enumeration.visit progress ref).failure with
      | none =>
          rw [visitAll_eq_of_visit visited]
          exact inductionHypothesis
      | some failure =>
          simp only [visitAll, visited]
          exact visited ▸ visit_failure_ne_invalidOperator

/-- Every node that is visited without a failure runs in some partition. -/
theorem somePartition_of_visitAll
    (enumeration : Enumeration program)
    {refs : List program.Ref}
    (succeeded : (enumeration.visitAll refs progress).failure = none) :
    ∀ ref ∈ refs, (program.node ref).parallelism.getD enumeration.defaultParallelism ≠ 0 := by
  induction refs generalizing progress with
  | nil => simp
  | cons ref rest inductionHypothesis =>
      obtain ⟨visited, visitAll_eq⟩ := visitAll_cons succeeded
      rw [visitAll_eq] at succeeded
      intro other isThere
      rcases List.mem_cons.mp isThere with rfl | inRest
      · exact (visit_failure_eq_none_iff.mp visited).1
      · exact inductionHypothesis succeeded other inRest

end Dataflow.Enumeration
