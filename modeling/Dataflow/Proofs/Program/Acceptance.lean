import Dataflow.Program.Graph
import Dataflow.Proofs.Program.Dependencies
import Dataflow.Proofs.Walk

namespace Dataflow

/-!
# Accepted programs

The graph above some sinks exists exactly when identifiers tell the nodes in it apart, and it then lists
the dependencies of the sinks.
-/

namespace Program

variable {Number : Type} {program : Program Number}

/-- No two of the nodes have the same identifier. -/
def IdentifiersApart (program : Program Number) (refs : List program.Ref) : Prop :=
  ∀ first ∈ refs, ∀ second ∈ refs,
    program.identifier first = program.identifier second → first = second

instance (refs : List program.Ref) : Decidable (program.IdentifiersApart refs) :=
  inferInstanceAs (Decidable (∀ first ∈ refs, ∀ second ∈ refs,
    program.identifier first = program.identifier second → first = second))

theorem IdentifiersApart.mono
    {refs others : List program.Ref}
    (apart : program.IdentifiersApart others)
    (within : ∀ ref ∈ refs, ref ∈ others) :
    program.IdentifiersApart refs :=
  fun first isFirst second isSecond =>
    apart first (within first isFirst) second (within second isSecond)

/-- The recursion without the proofs that it ends. -/
theorem visit_eq
    (visited : List program.Ref)
    (ref : program.Ref) :
    program.visit visited ref =
      match visited.find? fun other => program.identifier other == program.identifier ref with
      | some known =>
          if known = ref then
            .ok visited
          else
            .error <| .sharedIdentifier (program.identifier ref)
              (program.node known).name (program.node ref).name
      | none => (program.inputs ref).foldlM program.visit (visited ++ [ref]) := by
  rw [visit]
  cases visited.find? fun other => program.identifier other == program.identifier ref with
  | some known => rfl
  | none =>
      show (program.inputs ref).attach.foldlM _ (visited ++ [ref]) = _
      rw [List.foldlM_subtype (g := program.visit) (fun _ _ _ => rfl), List.unattach_attach]

/-- Visiting nodes is a walk on which only a node itself stands for it. -/
def walk (program : Program Number) : Walk OperatorFault program.Ref where
  key := program.identifier
  next := program.inputs
  Same := Eq
  step := program.visit
  size := Fin.val
  same_refl _ := rfl
  size_next := lt_of_mem_inputs
  step_of_met := by
    intro visited ref known found
    rw [visit_eq, found]
    refine ⟨fun same => if_pos same, ?_⟩
    intro grown succeeded
    by_cases same : known = ref
    · exact same
    · simp [same] at succeeded
  step_of_new := by
    intro visited ref notFound
    rw [visit_eq, notFound]

@[simp]
theorem met_walk_iff
    {visited : List program.Ref}
    {ref : program.Ref} :
    program.walk.Met visited ref ↔ ref ∈ visited := by
  constructor
  · rintro ⟨known, isVisited, _, same⟩
    exact same ▸ isVisited
  · exact fun isVisited => ⟨ref, isVisited, rfl, rfl⟩

end Program

namespace Graph

variable {Number : Type} {program : Program Number}

theorem ofSinks_eq_ok_iff_walked
    {sinks : List program.Ref}
    {graph : Graph program} :
    ofSinks program sinks = .ok graph ↔
      (∃ grown, sinks.foldlM program.visit [] = .ok grown) ∧
        graph = ⟨program.dependenciesOf sinks⟩ := by
  unfold ofSinks
  cases sinks.foldlM program.visit [] with
  | error fault => simp [discard, Functor.discard, Functor.mapConst, Except.map, bind, Except.bind]
  | ok grown =>
      simp [discard, Functor.discard, Functor.mapConst, Except.map, bind, Except.bind, pure,
        Except.pure, eq_comm]

/-- A walk over the sinks succeeds only if it reaches all that they depend on. -/
theorem mem_of_walked
    {sinks grown : List program.Ref}
    (walked : sinks.foldlM program.visit [] = .ok grown)
    {ref : program.Ref}
    (member : ref ∈ program.dependenciesOf sinks) :
    ref ∈ grown := by
  have visited : program.walk.Walked [] grown sinks := Walk.walked walked
  obtain ⟨sink, isSink, depends⟩ := Program.mem_dependenciesOf.mp member
  have sinkReached := Program.met_walk_iff.mp (visited.reached sink isSink)
  clear isSink member
  induction depends with
  | self ref => exact sinkReached
  | @reads ref input other isInput _ inductionHypothesis =>
      exact inductionHypothesis (Program.met_walk_iff.mp (visited.hereditary_met sinkReached input isInput))

theorem hereditary_dependenciesOf (sinks : List program.Ref) :
    program.walk.Hereditary (· ∈ program.dependenciesOf sinks) := by
  intro ref member input isInput
  exact (Program.inputsFirst_dependenciesOf sinks).mem_of_dependsOn (.ofInput isInput) member

/--
The graph above some sinks exists exactly when identifiers tell the dependencies of the sinks apart, and
it lists these dependencies.
-/
theorem ofSinks_eq_ok_iff_apart
    {sinks : List program.Ref}
    {graph : Graph program} :
    ofSinks program sinks = .ok graph ↔
      program.IdentifiersApart (program.dependenciesOf sinks) ∧
        graph = ⟨program.dependenciesOf sinks⟩ := by
  rw [ofSinks_eq_ok_iff_walked, and_congr_left_iff]
  intro _
  constructor
  · rintro ⟨grown, walked⟩
    have visited : program.walk.Walked [] grown sinks := Walk.walked walked
    have grownApart : program.IdentifiersApart grown :=
      fun first isFirst second isSecond => (visited.apart List.Pairwise.nil).eq_of_key_eq isFirst isSecond
    exact grownApart.mono fun ref member => mem_of_walked walked member
  · intro apart
    have consistent : program.walk.Consistent (· ∈ program.dependenciesOf sinks) :=
      fun first second isFirst isSecond => apart first isFirst second isSecond
    obtain ⟨grown, walked, _⟩ := Walk.exists_walk_eq_ok (hereditary_dependenciesOf sinks) consistent
      fun sink isSink => Program.mem_dependenciesOf.mpr ⟨sink, isSink, .self sink⟩
    exact ⟨grown, walked⟩

/-- A graph is refused only because two of its nodes have the same identifier, which are named. -/
theorem exists_sharedIdentifier
    {sinks : List program.Ref}
    {fault : OperatorFault}
    (refused : ofSinks program sinks = .error fault) :
    ∃ first ∈ program.dependenciesOf sinks, ∃ second ∈ program.dependenciesOf sinks,
      program.identifier first = program.identifier second ∧ first ≠ second ∧
      fault = .sharedIdentifier (program.identifier second) (program.node first).name
        (program.node second).name := by
  have failed : sinks.foldlM program.visit [] = .error fault := by
    unfold ofSinks at refused
    cases walked : sinks.foldlM program.visit [] with
    | error other =>
        rw [walked] at refused
        exact congrArg _ (Except.error.inj refused)
    | ok grown =>
        rw [walked] at refused
        exact nomatch refused
  obtain ⟨met, second, first, isSecond, isFirst, found, stepped⟩ :=
    Walk.refuses_of_walk (hereditary_dependenciesOf sinks)
      (fun sink isSink => Program.mem_dependenciesOf.mpr ⟨sink, isSink, .self sink⟩) failed
  replace found : met.find? (fun other => program.identifier other == program.identifier second) =
      some first := found
  have sameIdentifier : program.identifier first = program.identifier second := by
    simpa using List.find?_some found
  replace stepped : program.visit met second = .error fault := stepped
  rw [Program.visit_eq, found] at stepped
  by_cases same : first = second
  · simp [same] at stepped
  · refine ⟨first, isFirst, second, isSecond, sameIdentifier, same, ?_⟩
    simpa [same, eq_comm] using stepped

end Graph

end Dataflow
