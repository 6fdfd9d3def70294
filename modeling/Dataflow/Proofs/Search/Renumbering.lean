import Dataflow.Proofs.Candidate.Renumbering
import Dataflow.Proofs.Search.Production

namespace Dataflow.AttemptScope

/-!
# Attempts under new identifiers

When a node reads only some of the candidates of its inputs, and these under new identifiers, the attempts that
succeed are those on the candidates that are left, with the new identifiers in what they lead to.
-/

variable {Number : Type} [Arithmetic Number] {scope : AttemptScope Number} {renumbering : Renumbering}

theorem channelOptions_renumber
    {row : Row}
    {sources : List (Candidate Number)} :
    scope.channelOptions row (sources.map (Candidate.renumber renumbering)) =
      (scope.channelOptions row sources).map (List.map (Channel.renumber renumbering)) := by
  simp only [channelOptions, List.zip_map_left]
  apply List.ext_getElem?
  intro position
  simp only [List.getElem?_mapIdx, List.getElem?_map, Option.map_map]
  congr 1
  funext pair
  exact Candidate.channels_renumber

omit [Arithmetic Number] in
theorem attemptOn_renumber
    {driver : Driver}
    {branchPlan : BranchPlan}
    {channels : List (Channel Number (Candidate Number))} :
    (attemptOn driver (branchPlan.renumber renumbering)
        (channels.map (Channel.renumber renumbering))).assembly? =
      (attemptOn driver branchPlan channels).assembly?.map (Assembly.renumber renumbering) := by
  have sameGlobals : (channels.map (Channel.renumber renumbering)).map Channel.globally =
      channels.map Channel.globally := by
    simp [Channel.renumber]
  unfold attemptOn
  rw [sameGlobals]
  split <;> rfl

theorem attemptsFrom_renumber
    {row : Row}
    {sources : List (Candidate Number)} :
    (scope.attemptsFrom row (sources.map (Candidate.renumber renumbering))).filterMap Attempt.assembly? =
      ((scope.attemptsFrom row sources).filterMap Attempt.assembly?).map (Assembly.renumber renumbering) := by
  have samePlans : (sources.map (Candidate.renumber renumbering)).map Candidate.branchPlan =
      (sources.map Candidate.branchPlan).map (BranchPlan.renumber renumbering) := by
    simp
  unfold attemptsFrom
  rw [samePlans, BranchPlan.merge?_renumber, channelOptions_renumber, combinations_map_map]
  cases BranchPlan.merge? (sources.map Candidate.branchPlan) with
  | none => rfl
  | some merged =>
      simp only [Option.map_some, ← BranchPlan.renumber_filterKeys, List.filterMap_map, List.map_filterMap]
      congr 1
      funext channels
      exact attemptOn_renumber

theorem sources_of_mem_attemptsFrom
    {row : Row}
    {sources : List (Candidate Number)}
    (sameLength : sources.length = row.2.length)
    {assembly : Assembly Number}
    (isAssembly : assembly ∈ (scope.attemptsFrom row sources).filterMap Attempt.assembly?) :
    assembly.inputs.map Channel.source = sources := by
  obtain ⟨_, _, channels, areChannels, _, rfl⟩ := mem_assembliesFrom_iff.mp isAssembly
  exact ((mem_combinations_channelOptions_iff sameLength).mp areChannels).sources_eq

/-- The scope of a node that reads only kept candidates, under new identifiers. -/
def reading
    (scope : AttemptScope Number)
    (keep : Candidate Number → Bool)
    (renumbering : Renumbering) :
    AttemptScope Number :=
  { scope with
    inputs := (scope.inputs.map (List.filter keep)).map (List.map (Candidate.renumber renumbering)) }

/-- What is assembled on kept candidates is what is assembled on all candidates and rests on kept ones. -/
theorem assembled_reading
    {keep : Candidate Number → Bool}
    {row : Row}
    (sameLength : scope.inputs.length = row.2.length) :
    ((scope.reading keep renumbering).attempts row).filterMap Attempt.assembly? =
      (((scope.attempts row).filterMap Attempt.assembly?).filter fun assembly =>
        (assembly.inputs.map Channel.source).all keep).map (Assembly.renumber renumbering) := by
  have sourcesLeft : combinations (scope.reading keep renumbering).inputs =
      ((combinations scope.inputs).filter fun sources => sources.all keep).map
        (List.map (Candidate.renumber renumbering)) := by
    rw [reading, combinations_map_map, combinations_map_filter]
  have assembledFrom : ∀ sources : List (Candidate Number),
      ((scope.reading keep renumbering).attemptsFrom row
        (sources.map (Candidate.renumber renumbering))).filterMap Attempt.assembly? =
          ((scope.attemptsFrom row sources).filterMap Attempt.assembly?).map (Assembly.renumber renumbering) :=
    fun sources => attemptsFrom_renumber
  rw [attempts, attempts, sourcesLeft, List.filterMap_flatMap, List.filterMap_flatMap, List.flatMap_map]
  simp only [assembledFrom]
  rw [← List.map_flatMap, flatMap_filter_eq]
  intro sources areSources assembly isAssembly
  rw [sources_of_mem_attemptsFrom ((length_of_mem_combinations areSources).trans sameLength) isAssembly]

end Dataflow.AttemptScope
