import Dataflow.Proofs.Search.Mirroring

namespace Dataflow.Enumeration

/-!
# Numbering of candidates over several runs

Candidates are numbered consecutively over all runs of an optimizer.  A run that starts with a greater number
fails at the same node for the same reason, or has the same candidates under greater identifiers.
-/

variable {Number : Type} [Arithmetic Number] {program : Program Number}
variable {enumeration : Enumeration program} {amount : Nat} {progress later : Progress Number}
variable {ref : program.Ref}

/-- The rows of a node that lead to no candidate. -/
def unmet (enumeration : Enumeration program) (progress : Progress Number) (ref : program.Ref) : List Row :=
  (AttemptScope.rows (admittedDrivers (program.node ref))).filter fun row =>
    (((enumeration.scope progress ref).attempts row).filterMap Attempt.assembly?).isEmpty

/-- Why the visit of a node fails, if it does. -/
theorem failure_visit :
    (enumeration.visit progress ref).failure =
      if (enumeration.context progress ref).parallelism = 0 then
        some (.zeroParallelism (program.identifier ref))
      else if enumeration.assemblies progress ref = [] then
        some (.noFeasibleCandidate (program.identifier ref) (program.node ref).name
          (infeasibility (admittedDrivers (program.node ref)) (enumeration.unmet progress ref)))
      else
        none := by
  have unmet_eq : (((AttemptScope.rows (admittedDrivers (program.node ref))).map fun row =>
      (row, (enumeration.scope progress ref).attempts row)).filter fun row =>
        (row.2.filterMap Attempt.assembly?).isEmpty).map Prod.fst = enumeration.unmet progress ref := by
    rw [List.filter_map, List.map_map]
    exact List.map_id _
  unfold visit
  split
  · rfl
  · unfold enumerate
    simp only [filterMap_attempted_eq, unmet_eq, instantiateAll, List.isEmpty_iff, List.mapIdx_eq_nil_iff]
    split <;> rfl

theorem nextCandidate_visit
    (succeeded : (enumeration.visit progress ref).failure = none) :
    (enumeration.visit progress ref).progress.nextCandidate =
      progress.nextCandidate + (enumeration.produced progress ref progress.nextCandidate).length := by
  obtain ⟨somePartition, someAssembly⟩ := visit_failure_eq_none_iff.mp succeeded
  unfold visit
  rw [if_neg somePartition]
  unfold enumerate
  simp only [filterMap_attempted_eq]
  rw [if_neg (by simpa [instantiateAll] using someAssembly)]
  rfl

/-- The later progress has the same candidates under greater identifiers. -/
structure Shifts (amount : Nat) (progress later : Progress Number) : Prop where
  candidates_eq : ∀ identifier, later.candidates identifier =
    (progress.candidates identifier).map (Candidate.renumber (.shift amount))
  statistics_eq : ∀ identifier, later.statistics identifier = progress.statistics identifier
  nextCandidate_eq : later.nextCandidate = progress.nextCandidate + amount

namespace Shifts

theorem context_eq (shifts : Shifts amount progress later) :
    enumeration.context later ref = enumeration.context progress ref := by
  simp only [context, shifts.statistics_eq]

theorem scope_eq (shifts : Shifts amount progress later) :
    enumeration.scope later ref =
      (enumeration.scope progress ref).reading (fun _ => true) (.shift amount) := by
  have keepAll : ∀ candidates : List (Candidate Number), (candidates.filter fun _ => true) = candidates :=
    fun candidates => List.filter_eq_self.mpr fun _ _ => rfl
  simp only [scope, AttemptScope.reading, shifts.context_eq, shifts.candidates_eq, List.map_map,
    Function.comp_def, keepAll]

theorem assembled_eq
    (shifts : Shifts amount progress later)
    {row : Row}
    (isRow : row ∈ AttemptScope.rows (admittedDrivers (program.node ref))) :
    ((enumeration.scope later ref).attempts row).filterMap Attempt.assembly? =
      (((enumeration.scope progress ref).attempts row).filterMap Attempt.assembly?).map
        (Assembly.renumber (.shift amount)) := by
  obtain ⟨admitted, isRequirement⟩ := mem_rows_iff.mp isRow
  have sameLength : (enumeration.scope progress ref).inputs.length = row.2.length := by
    rw [← length_inputs_eq admitted isRequirement]
    simp [scope]
  rw [shifts.scope_eq, AttemptScope.assembled_reading sameLength]
  congr 1
  exact List.filter_eq_self.mpr fun assembly _ => List.all_eq_true.mpr fun _ _ => rfl

theorem assemblies_eq (shifts : Shifts amount progress later) :
    enumeration.assemblies later ref =
      (enumeration.assemblies progress ref).map (Assembly.renumber (.shift amount)) := by
  rw [assemblies, assemblies, List.filterMap_flatMap, List.filterMap_flatMap, List.map_flatMap,
    List.flatMap_def, List.flatMap_def]
  congr 1
  exact List.map_congr_left fun row isRow => shifts.assembled_eq isRow

theorem produced_eq (shifts : Shifts amount progress later) :
    enumeration.produced later ref later.nextCandidate =
      (enumeration.produced progress ref progress.nextCandidate).map
        (Candidate.renumber (.shift amount)) := by
  apply List.ext_getElem?
  intro index
  simp only [produced, instantiateAll, shifts.assemblies_eq, shifts.nextCandidate_eq, List.getElem?_mapIdx,
    List.getElem?_map, Option.map_map]
  congr 1
  funext assembly
  have greater : progress.nextCandidate + amount + index =
      (Renumbering.shift amount).apply (enumeration.scope progress ref).context.node.identifier
        (progress.nextCandidate + index) := Nat.add_right_comm _ _ _
  have sameContext : (enumeration.scope later ref).context = (enumeration.scope progress ref).context :=
    shifts.context_eq
  have sameModel : (enumeration.scope later ref).model = (enumeration.scope progress ref).model := rfl
  simp only [Function.comp_apply, sameContext, sameModel, greater]
  exact Assembly.instantiate_renumber

theorem survivors_eq
    {weights : Weights Number}
    (keep_eq : enumeration.keep = Candidate.prune weights)
    (shifts : Shifts amount progress later)
    {identifier : Nat} :
    enumeration.survivors identifier (enumeration.produced later ref later.nextCandidate) =
      (enumeration.survivors identifier (enumeration.produced progress ref progress.nextCandidate)).map
        (Candidate.renumber (.shift amount)) := by
  rw [survivors_eq_map_opened, survivors_eq_map_opened, keep_eq, shifts.produced_eq,
    Candidate.prune_renumber, List.map_map, List.map_map]
  exact List.map_congr_left fun candidate _ => opened_renumber

theorem unmet_eq (shifts : Shifts amount progress later) :
    enumeration.unmet later ref = enumeration.unmet progress ref := by
  apply List.filter_congr
  intro row isRow
  rw [shifts.assembled_eq isRow, List.isEmpty_map]

theorem visit_failure_eq (shifts : Shifts amount progress later) :
    (enumeration.visit later ref).failure = (enumeration.visit progress ref).failure := by
  rw [failure_visit, failure_visit, shifts.context_eq, shifts.unmet_eq, shifts.assemblies_eq]
  simp only [List.map_eq_nil_iff]

theorem visit
    {weights : Weights Number}
    (keep_eq : enumeration.keep = Candidate.prune weights)
    (shifts : Shifts amount progress later)
    (succeeded : (enumeration.visit progress ref).failure = none) :
    Shifts amount (enumeration.visit progress ref).progress (enumeration.visit later ref).progress := by
  have laterSucceeded := shifts.visit_failure_eq.trans succeeded
  constructor
  · intro identifier
    rw [candidates_visit succeeded, candidates_visit laterSucceeded]
    split
    · exact shifts.survivors_eq keep_eq
    · exact shifts.candidates_eq identifier
  · intro identifier
    rw [statistics_visit succeeded, statistics_visit laterSucceeded, shifts.context_eq,
      shifts.statistics_eq]
  · rw [nextCandidate_visit succeeded, nextCandidate_visit laterSucceeded, shifts.produced_eq,
      shifts.nextCandidate_eq, List.length_map, Nat.add_right_comm]

/-- A run that starts with a greater number fails for the same reason, if it fails. -/
theorem visitAll_failure_eq
    {weights : Weights Number}
    (keep_eq : enumeration.keep = Candidate.prune weights)
    (shifts : Shifts amount progress later)
    (refs : List program.Ref) :
    (enumeration.visitAll refs later).failure = (enumeration.visitAll refs progress).failure := by
  induction refs generalizing progress later with
  | nil => rfl
  | cons ref rest inductionHypothesis =>
      have sameFailure : (enumeration.visit later ref).failure = (enumeration.visit progress ref).failure :=
        shifts.visit_failure_eq
      cases visited : (enumeration.visit progress ref).failure with
      | none =>
          rw [visitAll_eq_of_visit visited, visitAll_eq_of_visit (sameFailure.trans visited)]
          exact inductionHypothesis (shifts.visit keep_eq visited)
      | some failure =>
          simp only [visitAll, sameFailure, visited]

/-- A run that starts with a greater number ends with the same candidates under greater identifiers. -/
theorem visitAll
    {weights : Weights Number}
    (keep_eq : enumeration.keep = Candidate.prune weights)
    (shifts : Shifts amount progress later)
    {refs : List program.Ref}
    (succeeded : (enumeration.visitAll refs progress).failure = none) :
    Shifts amount (enumeration.visitAll refs progress).progress (enumeration.visitAll refs later).progress := by
  induction refs generalizing progress later with
  | nil => exact shifts
  | cons ref rest inductionHypothesis =>
      obtain ⟨visited, visitAll_eq⟩ := visitAll_cons succeeded
      rw [visitAll_eq] at succeeded ⊢
      rw [visitAll_eq_of_visit (shifts.visit_failure_eq.trans visited)]
      exact inductionHypothesis (shifts.visit keep_eq visited) succeeded

end Shifts

end Dataflow.Enumeration
