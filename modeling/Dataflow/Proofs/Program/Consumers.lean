import Dataflow.Proofs.Program.Acceptance

namespace Dataflow.Graph

/-!
# Consumers and open branches

A branching node stays open at a node that depends on it as long as some consumer of it is elsewhere.
What is known here about open branches only concerns the graph: the plans of candidates are compared on
exactly these nodes.
-/

variable {Number : Type} {program : Program Number} {graph : Graph program}

/-- Identifiers tell the nodes of the graph apart, and every node stands after all that it reads. -/
structure WellFormed (graph : Graph program) : Prop where
  apart : program.IdentifiersApart graph.order
  inputsFirst : Program.InputsFirst graph.order

theorem wellFormed_of_ofSinks
    {sinks : List program.Ref}
    (accepted : ofSinks program sinks = .ok graph) :
    graph.WellFormed := by
  obtain ⟨apart, rfl⟩ := ofSinks_eq_ok_iff_apart.mp accepted
  exact ⟨apart, Program.inputsFirst_dependenciesOf sinks⟩

theorem mem_order_of_ofSinks
    {sinks : List program.Ref}
    (accepted : ofSinks program sinks = .ok graph)
    {ref : program.Ref} :
    ref ∈ graph.order ↔ ∃ sink ∈ sinks, program.DependsOn sink ref := by
  obtain ⟨_, rfl⟩ := ofSinks_eq_ok_iff_apart.mp accepted
  exact Program.mem_dependenciesOf

theorem mem_order_of_mem_sinks
    {sinks : List program.Ref}
    (accepted : ofSinks program sinks = .ok graph) :
    ∀ sink ∈ sinks, sink ∈ graph.order :=
  fun sink isSink => (mem_order_of_ofSinks accepted).mpr ⟨sink, isSink, .self sink⟩

namespace WellFormed

theorem mem_of_dependsOn
    (wellFormed : graph.WellFormed)
    {ref other : program.Ref}
    (depends : program.DependsOn ref other)
    (member : ref ∈ graph.order) :
    other ∈ graph.order :=
  wellFormed.inputsFirst.mem_of_dependsOn depends member

theorem find?_identifier
    (wellFormed : graph.WellFormed)
    {ref : program.Ref}
    (member : ref ∈ graph.order) :
    graph.find? (program.identifier ref) = some ref := by
  cases found : graph.find? (program.identifier ref) with
  | none =>
      have absent := List.find?_eq_none.mp found ref member
      simp at absent
  | some other =>
      have sameIdentifier : program.identifier other = program.identifier ref := by
        simpa using List.find?_some found
      exact congrArg some
        (wellFormed.apart other (List.mem_of_find?_eq_some found) ref member sameIdentifier)

end WellFormed

@[simp]
theorem mem_consumers
    {ref consumer : program.Ref} :
    consumer ∈ graph.consumers ref ↔ consumer ∈ graph.order ∧ ref ∈ program.inputs consumer := by
  simp only [consumers, List.mem_flatMap, List.mem_map, List.mem_filter, decide_eq_true_eq]
  constructor
  · rintro ⟨reader, isThere, input, ⟨isInput, rfl⟩, rfl⟩
    exact ⟨isThere, isInput⟩
  · rintro ⟨isThere, isInput⟩
    exact ⟨consumer, isThere, ref, ⟨isInput, rfl⟩, rfl⟩

theorem branching_of_two_consumers
    {ref first second : program.Ref}
    (isFirst : first ∈ graph.consumers ref)
    (isSecond : second ∈ graph.consumers ref)
    (different : first ≠ second) :
    1 < (graph.consumers ref).length := by
  match consumersShape : graph.consumers ref with
  | [] => simp [consumersShape] at isFirst
  | [only] =>
      simp only [consumersShape, List.mem_singleton] at isFirst isSecond
      exact absurd (isFirst.trans isSecond.symm) different
  | _ :: _ :: _ => simp

theorem branching_of_read_twice
    {ref consumer : program.Ref}
    (isThere : consumer ∈ graph.order)
    (twice : [ref, ref].Sublist (program.inputs consumer)) :
    1 < (graph.consumers ref).length := by
  have ofConsumer : [consumer, consumer].Sublist
      (((program.inputs consumer).filter fun input => decide (input = ref)).map fun _ => consumer) := by
    simpa using (twice.filter fun input => decide (input = ref)).map fun _ => consumer
  have amongAll : [consumer, consumer].Sublist (graph.consumers ref) :=
    ofConsumer.trans (List.sublist_flatten_of_mem (List.mem_map.mpr ⟨consumer, isThere, rfl⟩))
  exact amongAll.length_le

theorem WellFormed.isBranching_iff
    (wellFormed : graph.WellFormed)
    {ref : program.Ref}
    (member : ref ∈ graph.order) :
    graph.isBranching (program.identifier ref) = true ↔ 1 < (graph.consumers ref).length := by
  simp [isBranching, consumerCount, wellFormed.find?_identifier member]

theorem WellFormed.consumedWithin_iff
    (wellFormed : graph.WellFormed)
    {nodes : List program.Ref}
    {ref : program.Ref}
    (member : ref ∈ graph.order) :
    graph.consumedWithin nodes (program.identifier ref) = true ↔
      ∀ consumer ∈ graph.consumers ref, consumer ∈ nodes := by
  simp [consumedWithin, wellFormed.find?_identifier member]

/-- The branching node is read by some node that the first node does not depend on. -/
structure Open (graph : Graph program) (ref branch : program.Ref) : Prop where
  depends : program.DependsOn ref branch
  branching : 1 < (graph.consumers branch).length
  elsewhere : ∃ consumer ∈ graph.consumers branch, ¬ program.DependsOn ref consumer

namespace Open

/-- A branching node is open at itself, because no node depends on its consumers. -/
theorem self
    {ref : program.Ref}
    (branching : 1 < (graph.consumers ref).length) :
    graph.Open ref ref := by
  obtain ⟨consumer, isConsumer⟩ := List.exists_mem_of_length_pos (Nat.lt_of_succ_lt branching)
  refine ⟨.self ref, branching, consumer, isConsumer, ?_⟩
  exact Program.DependsOn.not_of_mem_inputs (mem_consumers.mp isConsumer).2

/-- A branch that is open at a node is open at every node in between. -/
theorem between
    {ref middle branch : program.Ref}
    (isOpen : graph.Open ref branch)
    (above : program.DependsOn ref middle)
    (below : program.DependsOn middle branch) :
    graph.Open middle branch := by
  obtain ⟨consumer, isConsumer, elsewhere⟩ := isOpen.elsewhere
  exact ⟨below, isOpen.branching, consumer, isConsumer, fun depends => elsewhere (above.trans depends)⟩

end Open

/-- A node below another one that is not open there is read only by dependencies of that one. -/
theorem WellFormed.dependsOn_consumer_of_not_open
    (wellFormed : graph.WellFormed)
    {ref branch : program.Ref}
    (member : ref ∈ graph.order)
    (depends : program.DependsOn ref branch)
    (below : branch ≠ ref)
    (notOpen : ¬ graph.Open ref branch)
    {consumer : program.Ref}
    (isConsumer : consumer ∈ graph.consumers branch) :
    program.DependsOn ref consumer := by
  rcases depends.eq_or_read with same | ⟨reader, dependsOnReader, isRead⟩
  · exact absurd same below
  · have isReader : reader ∈ graph.consumers branch :=
      mem_consumers.mpr ⟨wellFormed.mem_of_dependsOn dependsOnReader member, isRead⟩
    by_cases sameReader : consumer = reader
    · exact sameReader ▸ dependsOnReader
    · have branching := branching_of_two_consumers isConsumer isReader sameReader
      rcases Classical.em (program.DependsOn ref consumer) with dependsOnConsumer | elsewhere
      · exact dependsOnConsumer
      · exact absurd ⟨depends, branching, consumer, isConsumer, elsewhere⟩ notOpen

/-- Where one of two nodes depends on the other one, the latter is an open branch of the former. -/
structure Separated (graph : Graph program) (first second : program.Ref) : Prop where
  forth : program.DependsOn first second → graph.Open first second
  back : program.DependsOn second first → graph.Open second first

theorem Separated.symm
    {first second : program.Ref}
    (separated : graph.Separated first second) :
    graph.Separated second first :=
  ⟨separated.back, separated.forth⟩

/-- An input of a node that another input depends on is read by both of them. -/
theorem WellFormed.open_of_inputs
    (wellFormed : graph.WellFormed)
    {consumer first second : program.Ref}
    (isThere : consumer ∈ graph.order)
    (isFirst : first ∈ program.inputs consumer)
    (isSecond : second ∈ program.inputs consumer)
    (different : first ≠ second)
    (depends : program.DependsOn first second) :
    graph.Open first second := by
  have isConsumer : consumer ∈ graph.consumers second := mem_consumers.mpr ⟨isThere, isSecond⟩
  have elsewhere : ¬ program.DependsOn first consumer := Program.DependsOn.not_of_mem_inputs isFirst
  refine ⟨depends, ?_, consumer, isConsumer, elsewhere⟩
  rcases depends.eq_or_read with same | ⟨reader, dependsOnReader, isRead⟩
  · exact absurd same.symm different
  · have readerThere : reader ∈ graph.order :=
      wellFormed.mem_of_dependsOn ((Program.DependsOn.ofInput isFirst).trans dependsOnReader) isThere
    apply branching_of_two_consumers isConsumer (mem_consumers.mpr ⟨readerThere, isRead⟩)
    rintro rfl
    exact elsewhere dependsOnReader

theorem WellFormed.inputs_separated
    (wellFormed : graph.WellFormed)
    {consumer : program.Ref}
    (isThere : consumer ∈ graph.order) :
    (program.inputs consumer).Pairwise graph.Separated := by
  rw [List.pairwise_iff_forall_sublist]
  intro first second bothInputs
  have isFirst : first ∈ program.inputs consumer := bothInputs.subset (by simp)
  have isSecond : second ∈ program.inputs consumer := bothInputs.subset (by simp)
  by_cases same : first = second
  · subst same
    have branching := branching_of_read_twice isThere bothInputs
    exact ⟨fun _ => .self branching, fun _ => .self branching⟩
  · exact ⟨wellFormed.open_of_inputs isThere isFirst isSecond same,
      wellFormed.open_of_inputs isThere isSecond isFirst (Ne.symm same)⟩

/-- Different nodes that no node of the graph reads are separated. -/
theorem WellFormed.sinks_separated
    (wellFormed : graph.WellFormed)
    {sinks : List program.Ref}
    (distinct : sinks.Nodup)
    (sinksThere : ∀ sink ∈ sinks, sink ∈ graph.order)
    (unread : ∀ sink ∈ sinks, ∀ ref ∈ graph.order, sink ∉ program.inputs ref) :
    sinks.Pairwise graph.Separated := by
  have independent : ∀ first ∈ sinks, ∀ second ∈ sinks, first ≠ second →
      ¬ program.DependsOn first second := by
    intro first isFirst second isSecond different depends
    rcases depends.eq_or_read with same | ⟨reader, dependsOnReader, isRead⟩
    · exact different same.symm
    · exact unread second isSecond reader
        (wellFormed.mem_of_dependsOn dependsOnReader (sinksThere first isFirst)) isRead
  apply distinct.imp_of_mem
  intro first second isFirst isSecond different
  exact ⟨fun depends => absurd depends (independent first isFirst second isSecond different),
    fun depends => absurd depends (independent second isSecond first isFirst different.symm)⟩

end Dataflow.Graph
