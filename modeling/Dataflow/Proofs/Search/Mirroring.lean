import Dataflow.Proofs.Search.Renumbering
import Dataflow.Proofs.Search.Retention

namespace Dataflow

/-!
# Pruned and unpruned runs

A run that drops dominated candidates mirrors the run in which nothing is dropped: at every node it has the
retained candidates of the other run.  The two runs number their candidates differently.
-/

/-- What a candidate is an instance of. -/
def Candidate.assembly {Number : Type} (candidate : Candidate Number) : Assembly Number where
  driver := candidate.driver
  inputs := candidate.inputs
  branchPlan := candidate.branchPlan

namespace Enumeration

variable {Number : Type} [Arithmetic Number] {program : Program Number}
variable {weights : Weights Number} {full : Progress Number} {ref : program.Ref}

open Classical in
/-- A run has at a node the retained candidates of a run in which nothing is dropped, and the same statistics. -/
structure Mirrors
    (weights : Weights Number)
    (renumbering : Renumbering)
    (progress full : Progress Number)
    (ref : program.Ref) : Prop where
  candidates_eq : candidatesOf progress ref =
    ((candidatesOf full ref).filter fun candidate => decide (Retained weights full ref candidate)).map
      (Candidate.renumber renumbering)
  statistics_eq : progress.statistics (program.identifier ref) = full.statistics (program.identifier ref)

theorem instantiate_assembly
    {enumeration : Enumeration program}
    {number : Nat}
    {candidate : Candidate Number}
    (isProduced : candidate ∈ enumeration.produced full ref number) :
    candidate.assembly.instantiate (enumeration.context full ref) enumeration.model candidate.identifier =
      candidate := by
  obtain ⟨index, assembly, _, rfl⟩ := mem_produced_iff.mp isProduced
  rfl

theorem map_assembly_produced
    {enumeration : Enumeration program}
    (number : Nat) :
    (enumeration.produced full ref number).map Candidate.assembly = enumeration.assemblies full ref := by
  apply List.ext_getElem?
  intro index
  rw [produced, instantiateAll, List.getElem?_map, List.getElem?_mapIdx, Option.map_map]
  cases (enumeration.assemblies full ref)[index]? <;> rfl

theorem map_identifier_produced
    {enumeration : Enumeration program}
    (number : Nat) :
    (enumeration.produced full ref number).map Candidate.identifier =
      List.range' number (enumeration.assemblies full ref).length := by
  apply List.ext_getElem
  · simp [produced, instantiateAll]
  · intro index _ _
    simp [produced, instantiateAll, Assembly.instantiate]

section Mirrors

variable {enumeration : Enumeration program} {reached : List program.Ref} {renumbering : Renumbering}
variable {progress : Progress Number}

open Classical in
theorem Mirrors.map_candidatesOf
    (stage : enumeration.unpruned.Stage reached full)
    {refs : List program.Ref}
    (within : ∀ ref ∈ refs, ref ∈ reached)
    (mirrors : ∀ ref ∈ refs, Mirrors weights renumbering progress full ref) :
    refs.map (candidatesOf progress) =
      ((refs.map (candidatesOf full)).map <| List.filter fun candidate =>
        decide (RetainedAmong weights full refs candidate)).map
          (List.map (Candidate.renumber renumbering)) := by
  rw [List.map_map, List.map_map]
  apply List.map_congr_left
  intro ref isThere
  rw [(mirrors ref isThere).candidates_eq]
  congr 1
  apply List.filter_congr
  intro candidate isCandidate
  rw [decide_eq_decide]
  exact (stage.retainedAmong_iff within isThere isCandidate).symm

theorem Mirrors.context_eq
    (mirrors : ∀ input ∈ program.inputs ref, Mirrors weights renumbering progress full input) :
    enumeration.context progress ref = enumeration.context full ref := by
  have sameStatistics : ((program.inputs ref).map fun input =>
      progress.statistics (program.identifier input)) =
        (program.inputs ref).map fun input => full.statistics (program.identifier input) :=
    List.map_congr_left fun input isInput => (mirrors input isInput).statistics_eq
  simp only [context, sameStatistics]

open Classical in
/-- What is assembled on retained candidates is what is assembled on all candidates and reads retained ones. -/
theorem Mirrors.assemblies_eq
    (stage : enumeration.unpruned.Stage reached full)
    (inputsReached : ∀ input ∈ program.inputs ref, input ∈ reached)
    (mirrors : ∀ input ∈ program.inputs ref, Mirrors weights renumbering progress full input) :
    enumeration.assemblies progress ref =
      ((enumeration.assemblies full ref).filter fun assembly =>
        (assembly.inputs.map Channel.source).all fun source =>
          decide (RetainedAmong weights full (program.inputs ref) source)).map
            (Assembly.renumber renumbering) := by
  have scope_eq : enumeration.scope progress ref =
      (enumeration.scope full ref).reading
        (fun source => decide (RetainedAmong weights full (program.inputs ref) source)) renumbering := by
    simp only [scope, AttemptScope.reading, Mirrors.context_eq mirrors]
    exact congrArg _ (Mirrors.map_candidatesOf stage inputsReached mirrors)
  rw [assemblies, assemblies, scope_eq, List.filterMap_flatMap, List.filterMap_flatMap, List.filter_flatMap,
    List.map_flatMap, List.flatMap_def, List.flatMap_def]
  congr 1
  apply List.map_congr_left
  intro row isRow
  obtain ⟨admitted, isRequirement⟩ := mem_rows_iff.mp isRow
  have sameLength : (enumeration.scope full ref).inputs.length = row.2.length := by
    rw [← length_inputs_eq admitted isRequirement]
    simp [scope]
  exact AttemptScope.assembled_reading sameLength

theorem Mirrors.assemblies_ne_nil_iff
    (stage : enumeration.unpruned.Stage reached full)
    (inputsReached : ∀ input ∈ program.inputs ref, input ∈ reached)
    (mirrors : ∀ input ∈ program.inputs ref, Mirrors weights renumbering progress full input) :
    enumeration.assemblies progress ref ≠ [] ↔
      ∃ assembly ∈ enumeration.assemblies full ref, ∀ source ∈ assembly.inputs.map Channel.source,
        RetainedAmong weights full (program.inputs ref) source := by
  rw [Mirrors.assemblies_eq stage inputsReached mirrors, Ne, List.map_eq_nil_iff, List.filter_eq_nil_iff]
  simp only [List.all_eq_true, decide_eq_true_iff]
  constructor
  · intro someAssembly
    apply Classical.byContradiction
    intro nothingSupported
    exact someAssembly fun assembly isAssembly supports => nothingSupported ⟨assembly, isAssembly, supports⟩
  · rintro ⟨assembly, isAssembly, supports⟩ noAssembly
    exact noAssembly assembly isAssembly supports

open Classical in
/-- The candidates that are produced on retained ones. -/
noncomputable def supported
    (enumeration : Enumeration program)
    (weights : Weights Number)
    (full : Progress Number)
    (ref : program.Ref)
    (number : Nat) :
    List (Candidate Number) :=
  (enumeration.produced full ref number).filter fun candidate => decide (Supported weights full ref candidate)

open Classical in
/--
The pruned run produces what is supported in the other run, if the supported candidates are renumbered in their
order.
-/
theorem Mirrors.produced_eq
    (stage : enumeration.unpruned.Stage reached full)
    (inputsReached : ∀ input ∈ program.inputs ref, input ∈ reached)
    (mirrors : ∀ input ∈ program.inputs ref, Mirrors weights renumbering progress full input)
    {start number : Nat}
    (consecutive : ∀ (index : Nat) (candidate : Candidate Number),
      (enumeration.supported weights full ref number)[index]? = some candidate →
      renumbering.apply (program.identifier ref) candidate.identifier = start + index) :
    enumeration.produced progress ref start =
      (enumeration.supported weights full ref number).map (Candidate.renumber renumbering) := by
  have assembliesLeft : enumeration.assemblies progress ref =
      ((enumeration.supported weights full ref number).map Candidate.assembly).map
        (Assembly.renumber renumbering) := by
    rw [Mirrors.assemblies_eq stage inputsReached mirrors, ← map_assembly_produced number, List.filter_map,
      supported]
    congr 3
    funext candidate
    rw [Function.comp_apply, Bool.eq_iff_iff, List.all_eq_true, decide_eq_true_iff]
    simp only [decide_eq_true_iff]
    rfl
  apply List.ext_getElem?
  intro index
  rw [produced, instantiateAll, assembliesLeft, List.getElem?_mapIdx, List.getElem?_map, List.getElem?_map,
    List.getElem?_map, Option.map_map, Option.map_map]
  cases found : (enumeration.supported weights full ref number)[index]? with
  | none => rfl
  | some candidate =>
      have isProduced := (List.mem_filter.mp (List.mem_of_getElem? found)).1
      have sameContext : (enumeration.scope progress ref).context = enumeration.context full ref :=
        Mirrors.context_eq mirrors
      have sameNode : (enumeration.context full ref).node.identifier = program.identifier ref := rfl
      simp only [Option.map_some, Function.comp_apply, sameContext]
      rw [← consecutive index candidate found, ← sameNode, Assembly.instantiate_renumber]
      exact congrArg some (congrArg _ (instantiate_assembly isProduced))

omit [Arithmetic Number] in
theorem opened_renumber
    {identifier : Nat}
    {candidate : Candidate Number} :
    enumeration.opened identifier (candidate.renumber renumbering) =
      (enumeration.opened identifier candidate).renumber renumbering := by
  unfold opened
  split
  · exact Candidate.openBranch_renumber
  · rfl

open Classical in
/-- The retained candidates are what pruning leaves of the supported ones. -/
theorem Stage.filter_retained
    (stage : enumeration.unpruned.Stage reached full)
    (isReached : ref ∈ reached)
    {number : Nat}
    (candidates_eq : candidatesOf full ref =
      enumeration.unpruned.survivors (program.identifier ref) (enumeration.produced full ref number)) :
    ((candidatesOf full ref).filter fun candidate => decide (Retained weights full ref candidate)) =
      (Candidate.prune weights (enumeration.supported weights full ref number)).map
        (enumeration.opened (program.identifier ref)) := by
  have opened_eq : candidatesOf full ref =
      (enumeration.produced full ref number).map (enumeration.opened (program.identifier ref)) := by
    rw [candidates_eq, survivors_eq_map_opened]
    rfl
  have openedThere : ∀ candidate ∈ enumeration.produced full ref number,
      enumeration.opened (program.identifier ref) candidate ∈ candidatesOf full ref := by
    intro candidate isProduced
    rw [opened_eq]
    exact List.mem_map.mpr ⟨candidate, isProduced, rfl⟩
  have isSupported : ∀ candidate,
      Supported weights full ref (enumeration.opened (program.identifier ref) candidate) ↔
        Supported weights full ref candidate := by
    intro candidate
    rw [Supported, Supported, inputs_opened]
  rw [opened_eq, List.filter_map, Candidate.prune, supported, List.filter_filter]
  congr 1
  apply List.filter_congr
  intro candidate isProduced
  rw [Function.comp_apply, ← Bool.decide_and, decide_eq_decide, retained_iff, isSupported,
    stage.closeBranch_opened isReached (produced_of_mem isProduced)]
  constructor
  · intro retained
    obtain ⟨_, supports, unsurpassed⟩ := retained
    refine ⟨fun other isOther => ?_, supports⟩
    obtain ⟨otherProduced, otherSupports⟩ := List.mem_filter.mp isOther
    rw [← stage.closeBranch_opened isReached (produced_of_mem otherProduced)]
    exact unsurpassed _ (openedThere other otherProduced)
      ((isSupported other).mpr (of_decide_eq_true otherSupports))
  · intro survives
    obtain ⟨unsurpassed, supports⟩ := survives
    refine ⟨openedThere candidate isProduced, supports, ?_⟩
    intro _ isOther otherSupports
    rw [opened_eq] at isOther
    obtain ⟨other, otherProduced, rfl⟩ := List.mem_map.mp isOther
    rw [stage.closeBranch_opened isReached (produced_of_mem otherProduced)]
    exact unsurpassed other
      (List.mem_filter.mpr ⟨otherProduced, decide_eq_true ((isSupported other).mp otherSupports)⟩)

/-- A pruned run has the retained candidates of a node if it has those of the inputs. -/
theorem Mirrors.of_inputs
    {done : List program.Ref}
    (keep_eq : enumeration.keep = Candidate.prune weights)
    (pruned : enumeration.Stage done progress)
    (isDone : ref ∈ done)
    (stage : enumeration.unpruned.Stage reached full)
    (isReached : ref ∈ reached)
    (mirrors : ∀ input ∈ program.inputs ref, Mirrors weights renumbering progress full input)
    {start number : Nat}
    (left_eq : candidatesOf progress ref =
      enumeration.survivors (program.identifier ref) (enumeration.produced progress ref start))
    (candidates_eq : candidatesOf full ref =
      enumeration.unpruned.survivors (program.identifier ref) (enumeration.produced full ref number))
    (consecutive : ∀ (index : Nat) (candidate : Candidate Number),
      (enumeration.supported weights full ref number)[index]? = some candidate →
      renumbering.apply (program.identifier ref) candidate.identifier = start + index) :
    Mirrors weights renumbering progress full ref := by
  have inputsReached : ∀ input ∈ program.inputs ref, input ∈ reached :=
    fun input isInput => stage.mem_of_dependsOn isReached (.ofInput isInput)
  constructor
  · rw [stage.filter_retained isReached candidates_eq, left_eq, survivors_eq_map_opened, keep_eq,
      Mirrors.produced_eq stage inputsReached mirrors consecutive, Candidate.prune_renumber, List.map_map,
      List.map_map]
    apply List.map_congr_left
    exact fun candidate _ => opened_renumber
  · rw [pruned.settled.statistics_eq ref isDone, stage.settled.statistics_eq ref isReached,
      Mirrors.context_eq mirrors]
    rfl

/-- What a pruned run has visited mirrors the run in which nothing is dropped. -/
theorem exists_mirrors
    {done : List program.Ref}
    (keep_eq : enumeration.keep = Candidate.prune weights)
    (pruned : enumeration.Stage done progress)
    (stage : enumeration.unpruned.Stage reached full)
    (within : ∀ ref ∈ done, ref ∈ reached) :
    ∃ renumbering, ∀ ref ∈ done, Mirrors weights renumbering progress full ref := by
  -- For every visited node: its first numbers in the two runs, and its supported candidates by their numbers.
  have numbered : ∀ node : Nat, ∃ numbering : Nat × Nat × List Nat,
      ∀ ref ∈ done, program.identifier ref = node →
        candidatesOf progress ref =
            enumeration.survivors (program.identifier ref) (enumeration.produced progress ref numbering.1) ∧
          candidatesOf full ref =
            enumeration.unpruned.survivors (program.identifier ref)
              (enumeration.produced full ref numbering.2.1) ∧
          numbering.2.2 = (enumeration.supported weights full ref numbering.2.1).map Candidate.identifier := by
    intro node
    by_cases visited : ∃ ref ∈ done, program.identifier ref = node
    · obtain ⟨ref, isDone, rfl⟩ := visited
      obtain ⟨start, left_eq⟩ := pruned.settled.candidates_eq ref isDone
      obtain ⟨number, candidates_eq⟩ := stage.settled.candidates_eq ref (within ref isDone)
      refine ⟨⟨start, number, (enumeration.supported weights full ref number).map Candidate.identifier⟩, ?_⟩
      intro other otherDone sameIdentifier
      obtain rfl : other = ref := pruned.eq_of_identifier_eq otherDone isDone sameIdentifier
      exact ⟨left_eq, candidates_eq, rfl⟩
    · exact ⟨⟨0, 0, []⟩, fun ref isDone same => absurd ⟨ref, isDone, same⟩ visited⟩
  obtain ⟨numbering, isNumbered⟩ := Classical.axiomOfChoice numbered
  refine ⟨.inOrder (fun node => (numbering node).2.2) (fun node => (numbering node).1), ?_⟩
  intro ref isDone
  induction position : ref.val using Nat.strongRecOn generalizing ref with
  | _ position inductionHypothesis =>
      subst position
      obtain ⟨left_eq, candidates_eq, listed_eq⟩ := isNumbered _ ref isDone rfl
      refine .of_inputs keep_eq pruned isDone stage (within ref isDone) ?_ left_eq candidates_eq ?_
      · intro input isInput
        exact inductionHypothesis input.val (Program.lt_of_mem_inputs isInput) input
          (pruned.mem_of_dependsOn isDone (.ofInput isInput)) rfl
      · intro index candidate found
        apply Renumbering.inOrder_apply
        · rw [listed_eq]
          apply (List.filter_sublist.map Candidate.identifier).nodup
          rw [map_identifier_produced]
          exact List.nodup_range'
        · rw [listed_eq, List.getElem?_map, found]
          rfl

/-- When a pruned run goes through, so does the run in which nothing is dropped. -/
theorem unpruned_visitAll
    {done rest : List program.Ref}
    (keep_eq : enumeration.keep = Candidate.prune weights)
    (pruned : enumeration.Stage done progress)
    (stage : enumeration.unpruned.Stage done full)
    (leading : done ++ rest <+: enumeration.graph.order)
    (succeeded : (enumeration.visitAll rest progress).failure = none) :
    (enumeration.unpruned.visitAll rest full).failure = none := by
  induction rest generalizing done progress full with
  | nil => rfl
  | cons ref rest inductionHypothesis =>
      obtain ⟨visited, visitAll_eq⟩ := visitAll_cons succeeded
      rw [visitAll_eq] at succeeded
      have regrouped : done ++ ref :: rest = (done ++ [ref]) ++ rest := by simp
      rw [regrouped] at leading
      have nextLeading := (List.prefix_append _ rest).trans leading
      obtain ⟨inputsDone, _, _⟩ := pruned.inputs_done nextLeading
      obtain ⟨renumbering, mirrors⟩ := exists_mirrors keep_eq pruned stage fun _ isDone => isDone
      have unprunedVisited : (enumeration.unpruned.visit full ref).failure = none := by
        obtain ⟨somePartition, someAssembly⟩ := visit_failure_eq_none_iff.mp visited
        refine visit_failure_eq_none_iff.mpr ⟨somePartition, ?_⟩
        obtain ⟨assembly, isAssembly, _⟩ := (Mirrors.assemblies_ne_nil_iff stage inputsDone
          fun input isInput => mirrors input (inputsDone input isInput)).mp someAssembly
        exact List.ne_nil_of_mem isAssembly
      rw [visitAll_eq_of_visit unprunedVisited]
      exact inductionHypothesis (pruned.visit nextLeading visited) (stage.visit nextLeading unprunedVisited)
        leading succeeded

/-- When a candidate is retained at every node, the pruned run goes through. -/
theorem pruned_visitAll
    {done rest : List program.Ref}
    (keep_eq : enumeration.keep = Candidate.prune weights)
    (pruned : enumeration.Stage done progress)
    (stage : enumeration.unpruned.Stage enumeration.graph.order full)
    (leading : done ++ rest <+: enumeration.graph.order)
    (somePartition : ∀ ref ∈ rest, (program.node ref).parallelism.getD enumeration.defaultParallelism ≠ 0)
    (someRetained : ∀ ref ∈ rest, ∃ candidate, Retained weights full ref candidate) :
    (enumeration.visitAll rest progress).failure = none := by
  induction rest generalizing done progress with
  | nil => rfl
  | cons ref rest inductionHypothesis =>
      have regrouped : done ++ ref :: rest = (done ++ [ref]) ++ rest := by simp
      rw [regrouped] at leading
      have nextLeading := (List.prefix_append _ rest).trans leading
      obtain ⟨inputsDone, _, isThere⟩ := pruned.inputs_done nextLeading
      obtain ⟨renumbering, mirrors⟩ := exists_mirrors keep_eq pruned stage fun _ => pruned.mem_order
      have visited : (enumeration.visit progress ref).failure = none := by
        refine visit_failure_eq_none_iff.mpr ⟨somePartition ref (.head _), ?_⟩
        obtain ⟨candidate, retained⟩ := someRetained ref (.head _)
        obtain ⟨isCandidate, supports, _⟩ := retained_iff.mp retained
        obtain ⟨number, candidates_eq⟩ := stage.settled.candidates_eq ref isThere
        rw [candidatesOf, candidates_eq, survivors_eq_map_opened] at isCandidate
        obtain ⟨original, isProduced, rfl⟩ := List.mem_map.mp isCandidate
        rw [Supported, inputs_opened] at supports
        have isAssembly : original.assembly ∈ enumeration.assemblies full ref := by
          rw [← map_assembly_produced number]
          exact List.mem_map.mpr ⟨original, isProduced, rfl⟩
        exact (Mirrors.assemblies_ne_nil_iff stage
          (fun input isInput => pruned.mem_order (inputsDone input isInput))
          fun input isInput => mirrors input (inputsDone input isInput)).mpr ⟨_, isAssembly, supports⟩
      rw [visitAll_eq_of_visit visited]
      exact inductionHypothesis (pruned.visit nextLeading visited) leading
        (fun other isOther => somePartition other (.tail _ isOther))
        (fun other isOther => someRetained other (.tail _ isOther))

end Mirrors

end Enumeration

end Dataflow
