import Dataflow.Proofs.Program.Traversal
import Dataflow.Proofs.WholeNumber
import Mathlib.Data.List.Nodup
import Mathlib.Data.Set.Card

namespace Dataflow

/-!
# What a graph covers

The graph above some sinks is the part of the program that they depend on.  It counts the nodes there and the inputs
that read each of them, where a node that reads another one twice counts twice, and it tells where every consumer of
a node is already below another one.
-/

/-- A node is reached from some sinks when it is one of them or below one. -/
def Program.Reaches {Number : Type} (program : Program Number) (sinks : List program.Ref) (ref : program.Ref) :
    Prop :=
  ∃ sink ∈ sinks, program.DependsOn sink ref

namespace Graph

variable {Number : Type} {program : Program Number} {graph : Graph program}

/-- The inputs that read a node, each with the node that it belongs to. -/
def slots (graph : Graph program) (ref : program.Ref) : List (program.Ref × Nat) :=
  graph.order.flatMap fun consumer =>
    ((program.inputs consumer).zipIdx.filter fun input => decide (input.1 = ref)).map fun input =>
      (consumer, input.2)

theorem mem_slots
    {ref : program.Ref}
    {slot : program.Ref × Nat} :
    slot ∈ graph.slots ref ↔ slot.1 ∈ graph.order ∧ (program.inputs slot.1)[slot.2]? = some ref := by
  obtain ⟨consumer, position⟩ := slot
  simp only [slots, List.mem_flatMap, List.mem_map, List.mem_filter, decide_eq_true_eq, Prod.exists,
    List.mem_zipIdx_iff_getElem?, Prod.mk.injEq]
  constructor
  · rintro ⟨_, isThere, input, _, ⟨isInput, rfl⟩, rfl, rfl⟩
    exact ⟨isThere, isInput⟩
  · rintro ⟨isThere, isInput⟩
    exact ⟨consumer, isThere, ref, position, ⟨isInput, rfl⟩, rfl, rfl⟩

theorem nodup_slots
    (nodup : graph.order.Nodup)
    (ref : program.Ref) :
    (graph.slots ref).Nodup := by
  -- Slots of one node differ in their positions, and those of different nodes differ in the node.
  refine List.nodup_flatMap.mpr ⟨fun consumer _ => ?_, ?_⟩
  · have positionsApart : ((program.inputs consumer).zipIdx.map Prod.snd).Nodup := by
      rw [List.zipIdx_map_snd]
      exact List.nodup_range'
    have apart := (List.pairwise_map.mp positionsApart).filter fun input => decide (input.1 = ref)
    exact apart.map _ fun first second different same => different (Prod.mk.inj same).2
  · refine nodup.imp fun {first second} different => ?_
    intro slot ofFirst ofSecond
    obtain ⟨_, _, rfl⟩ := List.mem_map.mp ofFirst
    obtain ⟨_, _, same⟩ := List.mem_map.mp ofSecond
    exact different (congrArg Prod.fst same).symm

/-- The consumers of a node are the nodes that its slots belong to. -/
theorem consumers_eq_map_slots (ref : program.Ref) :
    graph.consumers ref = (graph.slots ref).map Prod.fst := by
  rw [consumers, slots, List.map_flatMap]
  refine List.flatMap_congr fun consumer _ => ?_
  have inputsOfPairs : program.inputs consumer = (program.inputs consumer).zipIdx.map Prod.fst :=
    (List.zipIdx_map_fst 0 (program.inputs consumer)).symm
  conv_lhs => rw [inputsOfPairs, List.filter_map, List.map_map]
  rw [List.map_map]
  rfl

section Accepted

variable {sinks : List program.Ref}

theorem reaches_iff_mem_order
    (accepted : ofSinks program sinks = .ok graph)
    {ref : program.Ref} :
    program.Reaches sinks ref ↔ ref ∈ graph.order :=
  (mem_order_of_ofSinks accepted).symm

theorem exists_ofSinks_iff_apart :
    (∃ graph, ofSinks program sinks = .ok graph) ↔
      ∀ first second, program.Reaches sinks first → program.Reaches sinks second →
        program.identifier first = program.identifier second → first = second := by
  simp only [ofSinks_eq_ok_iff_apart, exists_and_left, exists_eq, and_true, Program.IdentifiersApart,
    Program.mem_dependenciesOf]
  exact ⟨fun apart first second isFirst isSecond => apart first isFirst second isSecond,
    fun apart first isFirst second isSecond => apart first second isFirst isSecond⟩

theorem encard_setOf_mem
    {Element : Type}
    [DecidableEq Element]
    {elements : List Element}
    (nodup : elements.Nodup) :
    {element | element ∈ elements}.encard = elements.length := by
  rw [← List.coe_toFinset, Set.encard_coe_eq_coe_finsetCard, List.toFinset_card_of_nodup nodup]

theorem size_eq_encard
    (accepted : ofSinks program sinks = .ok graph) :
    (graph.size : ℕ∞) = {ref | program.Reaches sinks ref}.encard := by
  simp only [reaches_iff_mem_order accepted]
  exact (encard_setOf_mem (wellFormed_of_ofSinks accepted).inputsFirst.nodup).symm

theorem contains_iff_reaches
    (accepted : ofSinks program sinks = .ok graph)
    {identifier : Nat} :
    graph.contains identifier = true ↔
      ∃ ref, program.Reaches sinks ref ∧ program.identifier ref = identifier := by
  simp [reaches_iff_mem_order accepted, contains, find?]

/-- An identifier counts the slots of its node, and none if no node has it. -/
theorem consumerCount_eq_encard
    (accepted : ofSinks program sinks = .ok graph)
    (identifier : Nat) :
    (graph.consumerCount identifier : ℕ∞) =
      {slot : program.Ref × Nat | program.Reaches sinks slot.1 ∧
        ∃ ref, (program.inputs slot.1)[slot.2]? = some ref ∧ program.identifier ref = identifier}.encard := by
  have wellFormed := wellFormed_of_ofSinks accepted
  have isSlot : ∀ slot : program.Ref × Nat, ∀ ref, program.Reaches sinks slot.1 →
      (program.inputs slot.1)[slot.2]? = some ref → ref ∈ graph.order := fun slot ref reached isInput =>
    wellFormed.mem_of_dependsOn (.ofInput (List.mem_of_getElem? isInput))
      ((reaches_iff_mem_order accepted).mp reached)
  cases found : graph.find? identifier with
  | none =>
      have noSlots : {slot : program.Ref × Nat | program.Reaches sinks slot.1 ∧
          ∃ ref, (program.inputs slot.1)[slot.2]? = some ref ∧ program.identifier ref = identifier} = ∅ := by
        refine Set.eq_empty_iff_forall_notMem.mpr ?_
        rintro slot ⟨reached, ref, isInput, rfl⟩
        rw [wellFormed.find?_identifier (isSlot slot ref reached isInput)] at found
        exact nomatch found
      simp [consumerCount, found, noSlots]
  | some ref =>
      obtain rfl : program.identifier ref = identifier := by simpa using List.find?_some found
      have member : ref ∈ graph.order := List.mem_of_find?_eq_some found
      have slotsOfRef : {slot : program.Ref × Nat | program.Reaches sinks slot.1 ∧
          ∃ other, (program.inputs slot.1)[slot.2]? = some other ∧
            program.identifier other = program.identifier ref} = {slot | slot ∈ graph.slots ref} := by
        ext slot
        rw [Set.mem_ofPred_eq, Set.mem_ofPred_eq, mem_slots, ← reaches_iff_mem_order accepted]
        refine and_congr_right fun reached => ⟨?_, fun isInput => ⟨ref, isInput, rfl⟩⟩
        rintro ⟨other, isInput, same⟩
        exact wellFormed.apart other (isSlot slot other reached isInput) ref member same ▸ isInput
      have countOfRef : graph.consumerCount (program.identifier ref) = (graph.slots ref).length := by
        rw [consumerCount, found]
        exact (congrArg List.length (consumers_eq_map_slots ref)).trans (List.length_map _)
      rw [slotsOfRef, encard_setOf_mem (nodup_slots wellFormed.inputsFirst.nodup ref), countOfRef]

theorem closesBranch_iff_reaches
    (accepted : ofSinks program sinks = .ok graph)
    {branch ref : program.Ref}
    (branchReached : program.Reaches sinks branch)
    (reached : program.Reaches sinks ref) :
    graph.closesBranch (program.identifier branch) (program.identifier ref) = true ↔
      ∀ consumer, program.Reaches sinks consumer → branch ∈ program.inputs consumer →
        program.DependsOn ref consumer := by
  have wellFormed := wellFormed_of_ofSinks accepted
  rw [reaches_iff_mem_order accepted] at branchReached reached
  rw [closesBranch, wellFormed.find?_identifier reached, Option.any_some,
    wellFormed.consumedWithin_iff branchReached]
  simp only [mem_consumers, and_imp, Program.mem_dependencies, reaches_iff_mem_order accepted]

end Accepted

/-- The graph answers every question about it as the part of the program that some sinks reach. -/
structure Covers (graph : Graph program) (sinks : List program.Ref) : Prop where
  /-- Every node is counted once, however many others read it. -/
  size : (graph.size : ℕ∞) = {ref | program.Reaches sinks ref}.encard
  contains :
    ∀ identifier, graph.contains identifier = true ↔
      ∃ ref, program.Reaches sinks ref ∧ program.identifier ref = identifier
  /-- A node that reads another one twice does so at two positions among its inputs. -/
  consumerCount :
    ∀ identifier, (graph.consumerCount identifier : ℕ∞) =
      {slot : program.Ref × Nat | program.Reaches sinks slot.1 ∧
        ∃ ref, (program.inputs slot.1)[slot.2]? = some ref ∧ program.identifier ref = identifier}.encard
  closesBranch :
    ∀ branch ref, program.Reaches sinks branch → program.Reaches sinks ref →
      (graph.closesBranch (program.identifier branch) (program.identifier ref) = true ↔
        ∀ consumer, program.Reaches sinks consumer → branch ∈ program.inputs consumer →
          program.DependsOn ref consumer)

/--
The nodes below some sinks are always collected, whichever of them are shared: with a stack, this stops with the
nodes of the graph, or with the fault for which there is none.  There is a graph exactly when no two of the reached
nodes have the same identifier, and it covers what the sinks reach.
-/
theorem ofSinks_covers_reached (program : Program Number) (sinks : List program.Ref) :
    (∃ outcome, Program.Traversal.Leads (.running [] sinks) (.stopped outcome) ∧
        (∀ visited, outcome = .ok visited →
          ∃ graph, ofSinks program sinks = .ok graph ∧ visited.Perm graph.order) ∧
        ∀ fault, outcome = .error fault → ofSinks program sinks = .error fault) ∧
      ((∃ graph, ofSinks program sinks = .ok graph) ↔
        ∀ first second, program.Reaches sinks first → program.Reaches sinks second →
          program.identifier first = program.identifier second → first = second) ∧
      ∀ graph, ofSinks program sinks = .ok graph → graph.Covers sinks := by
  refine ⟨⟨_, Program.Traversal.leads_stopped sinks, fun visited walked => ?_, fun fault failed => ?_⟩,
    exists_ofSinks_iff_apart, fun graph accepted => ?_⟩
  · have accepted : ofSinks program sinks = .ok ⟨program.dependenciesOf sinks⟩ :=
      ofSinks_eq_ok_iff_walked.mpr ⟨⟨visited, walked⟩, rfl⟩
    exact ⟨_, accepted, visited_perm_order walked accepted⟩
  · exact ofSinks_eq_error_iff.mpr failed
  · exact {
      size := size_eq_encard accepted
      contains := fun _ => contains_iff_reaches accepted
      consumerCount := consumerCount_eq_encard accepted
      closesBranch := fun _ _ => closesBranch_iff_reaches accepted }

/-- Points that are paired with each other, and then once more with the pairs. -/
def tripled : Program WholeNumber where
  nodes := #[
    { identifier := 7, name := "points", operator := .source {} },
    { identifier := 5, name := "pairs", operator := .cross {}, inputs := [0, 0] },
    { identifier := 6, name := "triples", operator := .cross {}, inputs := [1, 0] }]
  fits := by
    intro position inside
    match position, inside with
    | 0, _ => exact ⟨rfl, by simp⟩
    | 1, _ => exact ⟨rfl, by simp⟩
    | 2, _ => exact ⟨rfl, by simp⟩

/-- The points are read at three positions, and by no node that the triples do not depend on. -/
theorem ofSinks_covers_reached_tripled :
    ofSinks tripled [⟨2, by decide⟩] = .ok ⟨List.finRange 3⟩ ∧
      {slot : tripled.Ref × Nat | tripled.Reaches [⟨2, by decide⟩] slot.1 ∧
        ∃ ref, (tripled.inputs slot.1)[slot.2]? = some ref ∧ tripled.identifier ref = 7}.encard = 3 ∧
      ∀ consumer, tripled.Reaches [⟨2, by decide⟩] consumer → ⟨0, by decide⟩ ∈ tripled.inputs consumer →
        tripled.DependsOn ⟨2, by decide⟩ consumer := by
  have accepted : ofSinks tripled [⟨2, by decide⟩] = .ok ⟨List.finRange 3⟩ :=
    ofSinks_eq_ok_iff_apart.mpr ⟨by decide +kernel, by decide +kernel⟩
  have covers := (ofSinks_covers_reached tripled [⟨2, by decide⟩]).2.2 _ accepted
  have triplesReached : tripled.Reaches [⟨2, by decide⟩] ⟨2, by decide⟩ := ⟨_, .head _, .self _⟩
  have pointsReached : tripled.Reaches [⟨2, by decide⟩] ⟨0, by decide⟩ :=
    ⟨_, .head _, .reads (List.mem_cons_of_mem _ (.head _)) (.self _)⟩
  refine ⟨accepted, ?_, ?_⟩
  · rw [← covers.consumerCount 7]
    decide +kernel
  · exact (covers.closesBranch _ _ pointsReached triplesReached).mp (by decide +kernel)

end Graph

end Dataflow
