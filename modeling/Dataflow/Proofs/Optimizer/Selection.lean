import Dataflow.Proofs.Optimizer.Outcome
import Dataflow.Proofs.Optimizer.Tracking

namespace Dataflow.Optimizer

/-!
# Selection of sink candidates

When no sink is read by another node, the branch plans of sink candidates tell whether these are coherent,
and coherent ones can always be collected into a plan.
-/

variable {Number : Type} [Arithmetic Number]
variable {optimizer : Optimizer Number} {plan : Plan Number} {graph : Graph plan.program}

/-- No node of a graph reads a sink. -/
def SinksUnread (plan : Plan Number) : Prop :=
  ∀ sink ∈ plan.sinks, ∀ ref ∈ plan.program.dependenciesOf plan.sinks, sink ∉ plan.program.inputs ref

instance (plan : Plan Number) : Decidable (SinksUnread plan) :=
  inferInstanceAs (Decidable (∀ sink ∈ plan.sinks, ∀ ref ∈ plan.program.dependenciesOf plan.sinks,
    sink ∉ plan.program.inputs ref))

omit [Arithmetic Number] in
theorem not_mem_inputs_of_sinksUnread
    (accepted : Graph.ofSinks plan.program plan.sinks = .ok graph)
    (unread : SinksUnread plan)
    (sink : plan.program.Ref)
    (isSink : sink ∈ plan.sinks)
    (ref : plan.program.Ref)
    (isThere : ref ∈ graph.order) :
    sink ∉ plan.program.inputs ref := by
  rw [Graph.mem_order_of_ofSinks accepted, ← Program.mem_dependenciesOf] at isThere
  exact unread sink isSink ref isThere

omit [Arithmetic Number] in
/-- Sinks that no node reads do not depend on each other. -/
theorem separated_of_sinksUnread
    (accepted : Graph.ofSinks plan.program plan.sinks = .ok graph)
    (unread : SinksUnread plan) :
    plan.sinks.Pairwise graph.Separated :=
  (Graph.wellFormed_of_ofSinks accepted).sinks_separated plan.distinct
    (Graph.mem_order_of_mem_sinks accepted) (not_mem_inputs_of_sinksUnread accepted unread)

/-- Sink candidates are consistent when they are coherent. -/
theorem areConsistent_iff_coherent
    {enumeration : Enumeration plan.program}
    {progress : Progress Number}
    (accepted : Graph.ofSinks plan.program plan.sinks = .ok enumeration.graph)
    (unread : SinksUnread plan)
    (stage : enumeration.Stage enumeration.graph.order progress)
    {chosen : List (Candidate Number)}
    (isChoice : chosen ∈ combinations (sinkCandidates plan progress)) :
    areConsistent chosen = true ↔ Candidate.Coherent chosen := by
  exact stage.isSome_merge?_iff_coherent (separated_of_sinksUnread accepted unread)
    (Graph.mem_order_of_mem_sinks accepted) isChoice

theorem stage_of_run
    (accepted : Graph.ofSinks plan.program plan.sinks = .ok graph)
    (visited : (optimizer.run plan graph).failure = none) :
    (optimizer.enumeration plan graph).Stage graph.order (optimizer.run plan graph).progress :=
  stage_of_visitAll accepted (List.append_nil graph.order).symm visited

/-- A plan is selected when some of the sink candidates are consistent. -/
theorem exists_select_eq_ok_iff
    {progress : Progress Number}
    (accepted : Graph.ofSinks plan.program plan.sinks = .ok graph)
    (unread : SinksUnread plan)
    (stage : (optimizer.enumeration plan graph).Stage graph.order progress) :
    (∃ physical, optimizer.select plan graph progress = .ok physical) ↔
      ∃ chosen ∈ combinations (sinkCandidates plan progress), areConsistent chosen = true := by
  constructor
  · rintro ⟨physical, selected⟩
    obtain ⟨roots, isLeast, _⟩ := select_eq_ok_iff.mp selected
    exact ⟨roots, List.mem_filter.mp (mem_of_firstLeast isLeast)⟩
  · rintro ⟨chosen, isChoice, consistent⟩
    have someChoice : selectSinks optimizer.weights (sinkCandidates plan progress) ≠ none := by
      rw [selectSinks, Ne, firstLeast_eq_none_iff]
      exact List.ne_nil_of_mem (List.mem_filter.mpr ⟨isChoice, consistent⟩)
    obtain ⟨roots, isLeast⟩ := Option.ne_none_iff_exists'.mp someChoice
    obtain ⟨rootsChosen, rootsConsistent⟩ := List.mem_filter.mp (mem_of_firstLeast isLeast)
    have coherent := (areConsistent_iff_coherent accepted unread stage rootsChosen).mp rootsConsistent
    obtain ⟨collected, walked⟩ := Candidate.exists_collected coherent
    exact ⟨_, select_eq_ok_iff.mpr ⟨roots, isLeast,
      PhysicalPlan.ofCandidates_eq_ok_iff.mpr ⟨collected, walked, rfl⟩⟩⟩

end Dataflow.Optimizer
