import Dataflow.Proofs.Search.BranchPlans

namespace Dataflow

/-!
# Retention

What pruning retains can be told from the run in which nothing is dropped: the candidates that are built on
retained candidates, and that no other candidate built on retained ones dominates.
-/

namespace Candidate

variable {Number : Type}

/-- The candidate without the choice of itself for its own node. -/
def closeBranch (candidate : Candidate Number) : Candidate Number :=
  { candidate with
    branchPlan := candidate.branchPlan.filterKeys fun node => node != candidate.node.identifier }

theorem closeBranch_eq_self
    {candidate : Candidate Number}
    (notOwn : candidate.branchPlan.get? candidate.node.identifier = none) :
    candidate.closeBranch = candidate := by
  have samePlan : (candidate.branchPlan.filterKeys fun node => node != candidate.node.identifier) =
      candidate.branchPlan := by
    apply SortedMap.filterKeys_eq_self
    intro node dropped
    obtain rfl : node = candidate.node.identifier := by simpa using dropped
    exact notOwn
  rw [closeBranch, samePlan]
  cases candidate
  rfl

theorem closeBranch_openBranch (candidate : Candidate Number) :
    candidate.openBranch.closeBranch = candidate.closeBranch := by
  simp only [closeBranch, openBranch]
  rw [SortedMap.filterKeys_insert (by simp)]

end Candidate

namespace Enumeration

variable {Number : Type} [Arithmetic Number] {program : Program Number}

/-- The enumeration that drops no candidate. -/
def unpruned (enumeration : Enumeration program) : Enumeration program :=
  { enumeration with keep := id }

/--
Pruning retains a candidate of a run in which nothing is dropped: it retains all that the candidate reads, and
no candidate of the node that reads only retained ones dominates this one.
-/
def Retained
    (weights : Weights Number)
    (progress : Progress Number)
    (ref : program.Ref)
    (candidate : Candidate Number) : Prop :=
  candidate ∈ candidatesOf progress ref ∧
    (∀ source ∈ candidate.inputs.map Channel.source,
      ∃ input, ∃ _ : input ∈ program.inputs ref, Retained weights progress input source) ∧
    ∀ other ∈ candidatesOf progress ref,
      (∀ source ∈ other.inputs.map Channel.source,
        ∃ input, ∃ _ : input ∈ program.inputs ref, Retained weights progress input source) →
      ¬ other.closeBranch.Dominates weights candidate.closeBranch
termination_by ref.val
decreasing_by all_goals exact Program.lt_of_mem_inputs ‹_›

/-- The candidate is retained at one of the nodes. -/
def RetainedAmong
    (weights : Weights Number)
    (progress : Progress Number)
    (refs : List program.Ref)
    (candidate : Candidate Number) : Prop :=
  ∃ ref ∈ refs, Retained weights progress ref candidate

/-- All that the candidate reads is retained. -/
def Supported
    (weights : Weights Number)
    (progress : Progress Number)
    (ref : program.Ref)
    (candidate : Candidate Number) : Prop :=
  ∀ source ∈ candidate.inputs.map Channel.source,
    RetainedAmong weights progress (program.inputs ref) source

variable {weights : Weights Number} {full : Progress Number} {ref : program.Ref}

theorem retained_iff
    {candidate : Candidate Number} :
    Retained weights full ref candidate ↔
      candidate ∈ candidatesOf full ref ∧ Supported weights full ref candidate ∧
        ∀ other ∈ candidatesOf full ref, Supported weights full ref other →
          ¬ other.closeBranch.Dominates weights candidate.closeBranch := by
  rw [Retained]
  simp only [Supported, RetainedAmong, exists_prop]

namespace Stage

variable {enumeration : Enumeration program} {reached : List program.Ref}

/-- A produced candidate makes no choice for its own node, which closing it again restores. -/
theorem closeBranch_opened
    (stage : enumeration.unpruned.Stage reached full)
    (isReached : ref ∈ reached)
    {candidate : Candidate Number}
    (produced : enumeration.unpruned.Produced full ref candidate) :
    (enumeration.opened (program.identifier ref) candidate).closeBranch = candidate := by
  have inputsReached : ∀ input ∈ program.inputs ref, input ∈ reached :=
    fun input isInput => stage.mem_of_dependsOn isReached (.ofInput isInput)
  have notOwn : candidate.branchPlan.get? candidate.node.identifier = none := by
    rw [← Option.not_isSome_iff_eq_none, Option.isSome_iff_exists]
    rintro ⟨choice, found⟩
    obtain ⟨⟨branch, notItself, sameIdentifier, isOpen⟩, _⟩ :=
      (stage.branchPlan_of_produced (stage.mem_order isReached) inputsReached
        (fun input isInput source isSource => stage.exact (inputsReached input isInput) isSource)
        produced).mp found
    rw [produced.node_eq] at sameIdentifier
    have branchReached := stage.mem_of_dependsOn isReached isOpen.depends
    exact notItself (stage.eq_of_identifier_eq branchReached isReached sameIdentifier)
  unfold opened
  split
  · rw [Candidate.closeBranch_openBranch, Candidate.closeBranch_eq_self notOwn]
  · exact Candidate.closeBranch_eq_self notOwn

theorem retainedAmong_iff
    (stage : enumeration.unpruned.Stage reached full)
    {refs : List program.Ref}
    (within : ∀ ref ∈ refs, ref ∈ reached)
    (isThere : ref ∈ refs)
    {candidate : Candidate Number}
    (isCandidate : candidate ∈ candidatesOf full ref) :
    RetainedAmong weights full refs candidate ↔ Retained weights full ref candidate := by
  constructor
  · rintro ⟨other, otherThere, retained⟩
    obtain rfl : other = ref := stage.eq_of_mem (within other otherThere) (within ref isThere)
      (retained_iff.mp retained).1 isCandidate
    exact retained
  · exact fun retained => ⟨ref, isThere, retained⟩

/-- Where a candidate is retained, one is retained at every node that its node depends on. -/
theorem exists_retained
    (stage : enumeration.unpruned.Stage reached full)
    {other : program.Ref}
    (depends : program.DependsOn ref other)
    (isReached : ref ∈ reached)
    (someRetained : ∃ candidate, Retained weights full ref candidate) :
    ∃ candidate, Retained weights full other candidate := by
  induction depends with
  | self ref => exact someRetained
  | @reads ref input other readsInput _ inductionHypothesis =>
      obtain ⟨candidate, retained⟩ := someRetained
      obtain ⟨isCandidate, supports, _⟩ := retained_iff.mp retained
      obtain ⟨source, isSource, sourceThere⟩ :=
        (mem_of_mem_combinations_map (stage.sources_mem isReached isCandidate)).2 input readsInput
      have inputsReached : ∀ input ∈ program.inputs ref, input ∈ reached :=
        fun input isInput => stage.mem_of_dependsOn isReached (.ofInput isInput)
      have sourceRetained := (stage.retainedAmong_iff inputsReached readsInput sourceThere).mp
        (supports source isSource)
      exact inductionHypothesis (inputsReached input readsInput) ⟨source, sourceRetained⟩

end Stage

end Enumeration

end Dataflow
