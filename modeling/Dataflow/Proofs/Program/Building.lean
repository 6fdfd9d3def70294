import Dataflow.Proofs.Program.Coverage
import Dataflow.Proofs.Program.Session

namespace Dataflow

/-!
# What calls on a builder build

A builder hands out identifiers in increasing order, and a node is in the program before another one can read it.
This holds through failures, restarts and abandoned nodes.  So identifiers tell apart all nodes of one builder, and
whichever of the built nodes are taken as sinks, there is a graph above them.
-/

/-- The identifier of a node that is not in the program yet. -/
def Root.pendingIdentifiers {Number : Type} {program : Program Number} : Root program → List Nat
  | .pending node _ => [node.identifier]
  | .built _ => []

namespace Builder

variable {Number : Type} {builder next : Builder Number}

/-- The identifiers of the nodes in the program and of the pending one, in the order in which they were added. -/
def identifiers (builder : Builder Number) : List Nat :=
  builder.program.nodes.toList.map Node.identifier ++ builder.root.elim [] Root.pendingIdentifiers

/-- Identifiers increase from each node to the next, and the counter is above all of them. -/
structure Numbered (builder : Builder Number) : Prop where
  increasing : builder.identifiers.Pairwise (· < ·)
  below : ∀ identifier ∈ builder.identifiers, identifier < builder.nextIdentifier

/-- A builder that adds no node may lose the pending one. -/
theorem Numbered.of_sublist
    (numbered : builder.Numbered)
    (fewer : next.identifiers.Sublist builder.identifiers)
    (sameCounter : next.nextIdentifier = builder.nextIdentifier) :
    next.Numbered where
  increasing := numbered.increasing.sublist fewer
  below := fun identifier member => sameCounter ▸ numbered.below identifier (fewer.subset member)

/-- A builder that adds a node gives it the number that the counter was at. -/
theorem Numbered.of_added
    {kept : List Nat}
    (numbered : builder.Numbered)
    (fewer : kept.Sublist builder.identifiers)
    (identifiers_eq : next.identifiers = kept ++ [builder.nextIdentifier])
    (counted : next.nextIdentifier = builder.nextIdentifier + 1) :
    next.Numbered := by
  have keptBelow : ∀ identifier ∈ kept, identifier < builder.nextIdentifier :=
    fun identifier member => numbered.below identifier (fewer.subset member)
  constructor
  · rw [identifiers_eq]
    refine List.pairwise_append.mpr ⟨numbered.increasing.sublist fewer, List.pairwise_singleton _ _, ?_⟩
    simpa using keptBelow
  · intro identifier member
    rw [identifiers_eq, List.mem_append, List.mem_singleton] at member
    rw [counted]
    rcases member with isKept | rfl
    · exact Nat.lt_succ_of_lt (keptBelow identifier isKept)
    · exact Nat.lt_succ_self _

/-- A pending node keeps its place among the identifiers when it is put into the program. -/
theorem identifiers_settle
    {program : Program Number}
    (root : Root program) :
    root.settle.program.nodes.toList.map Node.identifier =
      program.nodes.toList.map Node.identifier ++ root.pendingIdentifiers := by
  cases root with
  | pending node fits => simp [Root.settle, Program.push, Root.pendingIdentifiers]
  | built ref => simp [Root.settle, Root.pendingIdentifiers]

theorem numbered_new : ({} : Builder Number).Numbered where
  increasing := List.Pairwise.nil
  below := by simp [identifiers]

theorem Numbered.source
    (numbered : builder.Numbered)
    (name : String)
    (declared : Source Number) :
    (builder.source name declared).Numbered :=
  numbered.of_added (List.sublist_append_left _ _) rfl rfl

theorem Numbered.startFrom
    (numbered : builder.Numbered)
    (ref : builder.program.Ref) :
    (builder.startFrom ref).Numbered := by
  refine numbered.of_sublist ?_ rfl
  simp [identifiers, Builder.startFrom, Root.pendingIdentifiers]

theorem Numbered.append
    (numbered : builder.Numbered)
    (name : String)
    (operator : Operator Number)
    (others : List builder.program.Ref)
    (counted : others.length + 1 = operator.arity) :
    (builder.append name operator others counted).Numbered := by
  obtain ⟨program, root, nextIdentifier, fault⟩ := builder
  cases root with
  | none => exact numbered.of_sublist (List.Sublist.refl _) rfl
  | some root =>
      refine numbered.of_added (List.Sublist.refl _) ?_ rfl
      simp [identifiers, Builder.append, identifiers_settle, Root.pendingIdentifiers]

theorem Numbered.declare
    (numbered : builder.Numbered)
    {change : Node Number → Node Number}
    (keepsWiring : ∀ node position, node.Fits position → (change node).Fits position)
    (keepsIdentifier : ∀ node, (change node).identifier = node.identifier) :
    (builder.declare change keepsWiring).Numbered := by
  obtain ⟨program, root, nextIdentifier, fault⟩ := builder
  refine numbered.of_sublist ?_ rfl
  rcases root with _ | ⟨node, fits⟩ | ref
  · exact List.Sublist.refl _
  · simp [identifiers, Builder.declare, Root.declare, Root.pendingIdentifiers, keepsIdentifier]
  · exact List.Sublist.refl _

theorem nextIdentifier_append_le
    {name : String}
    {operator : Operator Number}
    {others : List builder.program.Ref}
    (counted : others.length + 1 = operator.arity) :
    (builder.append name operator others counted).nextIdentifier ≤ builder.nextIdentifier + 1 := by
  obtain ⟨program, root, nextIdentifier, fault⟩ := builder
  cases root with
  | none => exact Nat.le_succ _
  | some root => exact Nat.le_refl _

@[simp]
theorem nextIdentifier_build (builder : Builder Number) :
    builder.build.builder.nextIdentifier = builder.nextIdentifier := by
  obtain ⟨program, root, nextIdentifier, fault⟩ := builder
  cases fault <;> cases root <;> rfl

theorem Numbered.build (numbered : builder.Numbered) : builder.build.builder.Numbered := by
  obtain ⟨program, root, nextIdentifier, fault⟩ := builder
  cases fault with
  | some fault =>
      refine numbered.of_sublist ?_ rfl
      simp [identifiers, Builder.build]
  | none =>
      cases root with
      | none => exact numbered.of_sublist (List.Sublist.refl _) rfl
      | some root =>
          refine numbered.of_sublist ?_ rfl
          simp [identifiers, Builder.build, identifiers_settle]

/-- Nodes that are later in the program have greater identifiers. -/
theorem Numbered.strictMono_identifier (numbered : builder.Numbered) :
    StrictMono builder.program.identifier := by
  intro first second before
  have increasing := (List.pairwise_append.mp numbered.increasing).1
  rw [List.pairwise_map, List.pairwise_iff_getElem] at increasing
  exact increasing first.val second.val first.isLt second.isLt before

theorem Numbered.identifier_lt_nextIdentifier
    (numbered : builder.Numbered)
    (ref : builder.program.Ref) :
    builder.program.identifier ref < builder.nextIdentifier := by
  apply numbered.below
  apply List.mem_append_left
  exact List.mem_map_of_mem (Array.getElem_mem_toList ref.isLt)

end Builder

namespace Session

variable {Number : Type}

/-- A session after some calls has numbered its nodes, with no more numbers than there were calls. -/
theorem numbered_of_run?
    {session : Session Number}
    {calls : List (Call Number)}
    (ran : run? {} calls = some session) :
    session.builder.Numbered ∧ session.builder.nextIdentifier ≤ calls.length := by
  refine run?_induction
    (motive := fun calls session =>
      session.builder.Numbered ∧ session.builder.nextIdentifier ≤ calls.length)
    ⟨Builder.numbered_new, Nat.le_refl 0⟩ ?_ ran
  intro calls session call next ⟨numbered, few⟩ step
  rw [List.length_append, List.length_singleton]
  cases step with
  | source name declared => exact ⟨numbered.source name declared, Nat.succ_le_succ few⟩
  | startFrom node => exact ⟨numbered.startFrom node, Nat.le_succ_of_le few⟩
  | append _ operator others counted =>
      refine ⟨numbered.append _ operator others counted, ?_⟩
      exact Nat.le_trans (Builder.nextIdentifier_append_le counted) (Nat.succ_le_succ few)
  | declare _ change keepsWiring keepsIdentifier =>
      exact ⟨numbered.declare keepsWiring keepsIdentifier, Nat.le_succ_of_le few⟩
  | build => exact ⟨numbered.build, session.builder.nextIdentifier_build ▸ Nat.le_succ_of_le few⟩

/-- The nodes that a caller holds, with all that they depend on, are wired and numbered as a plan needs it. -/
structure WellFormed (session : Session Number) : Prop where
  apart : ∀ first second, session.builder.program.Reaches session.held first →
    session.builder.program.Reaches session.held second →
    session.builder.program.identifier first = session.builder.program.identifier second → first = second
  inputsSmaller : ∀ ref, session.builder.program.Reaches session.held ref →
    ∀ input ∈ session.builder.program.inputs ref,
      session.builder.program.identifier input < session.builder.program.identifier ref
  inputCount : ∀ ref, session.builder.program.Reaches session.held ref →
    (session.builder.program.inputs ref).length = (session.builder.program.node ref).operator.arity
  /-- Any of the held nodes can be taken as sinks. -/
  accepted : ∀ sinks, (∀ sink ∈ sinks, sink ∈ session.held) →
    ∃ graph, Graph.ofSinks session.builder.program sinks = .ok graph

theorem wellFormed_of_numbered
    {session : Session Number}
    (numbered : session.builder.Numbered) :
    session.WellFormed where
  apart _ _ _ _ same := numbered.strictMono_identifier.injective same
  inputsSmaller _ _ _ isInput := numbered.strictMono_identifier (Program.lt_of_mem_inputs isInput)
  inputCount ref _ := by
    rw [← (session.builder.program.node_fits ref).inputCount, ← Program.map_val_inputs, List.length_map]
  accepted sinks _ := Graph.exists_ofSinks_iff_apart.mpr fun _ _ _ _ same =>
    numbered.strictMono_identifier.injective same

/--
However a builder was called, its caller holds nodes with different identifiers below the number of calls, each with as
many inputs as its operator takes and all of them with smaller identifiers, and any of these nodes are sinks of a graph.
Later calls leave the nodes as they are, and the caller still holds them.
-/
theorem built_nodes_wellFormed
    (calls : List (Call Number))
    (session : Session Number)
    (ran : run? {} calls = some session) :
    session.WellFormed ∧
      (∀ ref, session.builder.program.Reaches session.held ref →
        session.builder.program.identifier ref < calls.length) ∧
      ∀ later next, session.run? later = some next → session.Continues next := by
  obtain ⟨numbered, few⟩ := numbered_of_run? ran
  refine ⟨wellFormed_of_numbered numbered, fun ref _ => ?_, fun later next => continues_of_run?⟩
  exact Nat.lt_of_lt_of_le (numbered.identifier_lt_nextIdentifier ref) few

/--
A map without an input fails.  Then a first source is abandoned, and points are paired with themselves: nothing can be
declared any more about the points when they are read again.
-/
def pairing : List (Call WholeNumber) :=
  [.map "lost" none, .source "unread" {}, .build, .source "abandoned" {}, .source "points" {}, .build,
    .startFrom 0, .parallelism 4, .cross "pairs" {} 0, .build, .startFrom 1, .sink "out", .build]

/-- The points, their pairs and the sink have the identifiers 2, 3 and 4, and all of them are sinks of a graph. -/
theorem built_nodes_wellFormed_pairing :
    ∃ session, run? {} pairing = some session ∧
      session.held.map session.builder.program.identifier = [2, 3, 4] ∧
      session.held.map (fun ref => (session.builder.program.node ref).parallelism) = [none, none, none] ∧
      (∃ graph, Graph.ofSinks session.builder.program session.held = .ok graph) ∧
      ∃ next, session.run? [.startFrom 0, .map "moved" none, .build] = some next ∧
        session.positions <+: next.positions := by
  have made : (run? {} pairing).isSome = true := by decide +kernel
  have continued : ((run? {} pairing).bind fun session =>
      session.run? [.startFrom 0, .map "moved" none, .build]).isSome = true := by decide +kernel
  have identifiers_eq : (run? {} pairing).map (fun session =>
      session.held.map session.builder.program.identifier) = some [2, 3, 4] := by decide +kernel
  have parallelism_eq : (run? {} pairing).map (fun session =>
      session.held.map fun ref => (session.builder.program.node ref).parallelism) =
        some [none, none, none] := by decide +kernel
  obtain ⟨session, ran⟩ := Option.isSome_iff_exists.mp made
  rw [ran] at continued identifiers_eq parallelism_eq
  obtain ⟨next, ranOn⟩ := Option.isSome_iff_exists.mp continued
  obtain ⟨wellFormed, _, keeps⟩ := built_nodes_wellFormed pairing session ran
  exact ⟨session, ran, Option.some.inj identifiers_eq, Option.some.inj parallelism_eq,
    wellFormed.accepted session.held fun _ isHeld => isHeld, next, ranOn, (keeps _ next ranOn).held⟩

end Session

end Dataflow
