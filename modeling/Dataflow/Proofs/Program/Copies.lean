import Dataflow.Proofs.Program.Session
import Mathlib.Data.List.Forall2
import Mathlib.Order.PropInstances

namespace Dataflow

/-!
# Copies of programs

To the caller of a builder it does not matter where nodes are in the program, or which other nodes are there.  A
relation between positions that is one-to-one, and that pairs nodes with the same declarations and with paired inputs,
says that what one caller holds is a copy of what another one does.  Two builders that start with such copies go on
alike, however they are called.
-/

/-- Paired lists have paired elements at every position, and end at the same one. -/
theorem rel_getElem?_of_forall₂
    {First Second : Type}
    {related : First → Second → Prop}
    {firsts : List First}
    {seconds : List Second}
    (paired : List.Forall₂ related firsts seconds)
    (position : Nat) :
    Option.Rel related firsts[position]? seconds[position]? := by
  induction paired generalizing position with
  | nil => exact .none
  | cons sameHead _ inductionHypothesis =>
      cases position with
      | zero => exact .some sameHead
      | succ position => simpa using inductionHypothesis position

variable {Number : Type} {pairs more : Nat → Nat → Prop}

/-- The same node, except that it names its inputs by their positions in another program. -/
structure Node.CopiedAs (pairs : Nat → Nat → Prop) (node copied : Node Number) : Prop where
  declared : { copied with inputs := node.inputs } = node
  inputs : List.Forall₂ pairs node.inputs copied.inputs

theorem Node.CopiedAs.mono
    {node copied : Node Number}
    (same : node.CopiedAs pairs copied)
    (stillPaired : pairs ≤ more) :
    node.CopiedAs more copied :=
  ⟨same.declared, same.inputs.imp stillPaired⟩

theorem Node.CopiedAs.declare
    {node copied : Node Number}
    {change : Node Number → Node Number}
    (same : node.CopiedAs pairs copied)
    (keepsInputs : ∀ node inputs, change { node with inputs } = { change node with inputs }) :
    (change node).CopiedAs pairs (change copied) := by
  have inputs_eq : ∀ node, (change node).inputs = node.inputs := by
    intro node
    have kept := congrArg Node.inputs (keepsInputs node node.inputs)
    exact kept
  constructor
  · rw [inputs_eq, ← keepsInputs, same.declared]
  · rw [inputs_eq, inputs_eq]
    exact same.inputs

/-- Nodes at paired positions are the same, and no node is paired with two others. -/
structure Program.CopiedAs (pairs : Nat → Nat → Prop) (program copy : Program Number) : Prop where
  node : ∀ {position place}, pairs position place → ∃ node copied,
    program.nodes[position]? = some node ∧ copy.nodes[place]? = some copied ∧ node.CopiedAs pairs copied
  oneToOne : ∀ {first firstPlace second secondPlace}, pairs first firstPlace → pairs second secondPlace →
    (first = second ↔ firstPlace = secondPlace)

namespace Program.CopiedAs

variable {program copy : Program Number}

theorem lt_size
    (copied : program.CopiedAs pairs copy)
    {position place : Nat}
    (paired : pairs position place) :
    position < program.size ∧ place < copy.size := by
  obtain ⟨_, _, isThere, isCopied, _⟩ := copied.node paired
  exact ⟨(Array.getElem?_eq_some_iff.mp isThere).1, (Array.getElem?_eq_some_iff.mp isCopied).1⟩

/-- The pairs, and the positions after the ends of two programs. -/
def withNext (pairs : Nat → Nat → Prop) (program copy : Program Number) (position place : Nat) : Prop :=
  pairs position place ∨ (position = program.size ∧ place = copy.size)

/-- The same node can be added to both programs. -/
theorem push
    (copied : program.CopiedAs pairs copy)
    {node other : Node Number}
    (same : node.CopiedAs pairs other)
    (fits : node.Fits program.size)
    (otherFits : other.Fits copy.size) :
    (program.push node fits).CopiedAs (withNext pairs program copy) (copy.push other otherFits) := by
  have stillPaired : pairs ≤ withNext pairs program copy := fun _ _ paired => .inl paired
  constructor
  · rintro position place (paired | ⟨rfl, rfl⟩)
    · obtain ⟨old, oldCopied, isThere, isCopied, sameOld⟩ := copied.node paired
      obtain ⟨inside, placeInside⟩ := copied.lt_size paired
      refine ⟨old, oldCopied, ?_, ?_, sameOld.mono stillPaired⟩
      · exact (Array.getElem?_push_lt inside).trans <| (Array.getElem?_eq_getElem inside).symm.trans isThere
      · exact (Array.getElem?_push_lt placeInside).trans <|
          (Array.getElem?_eq_getElem placeInside).symm.trans isCopied
    · exact ⟨node, other, Array.getElem?_push_size, Array.getElem?_push_size, same.mono stillPaired⟩
  · rintro first firstPlace second secondPlace (paired | ⟨rfl, rfl⟩) (alsoPaired | ⟨rfl, rfl⟩)
    · exact copied.oneToOne paired alsoPaired
    · have := copied.lt_size paired
      omega
    · have := copied.lt_size alsoPaired
      omega
    · simp

end Program.CopiedAs

/-- The current nodes of two builders look the same. -/
inductive Root.CopiedAs (pairs : Nat → Nat → Prop) {program copy : Program Number} :
    Root program → Root copy → Prop where
  | pending {node other : Node Number} {fits : node.Fits program.size} {otherFits : other.Fits copy.size}
      (same : node.CopiedAs pairs other) : CopiedAs pairs (.pending node fits) (.pending other otherFits)
  | built {ref : program.Ref} {other : copy.Ref} (paired : pairs ref.val other.val) :
      CopiedAs pairs (.built ref) (.built other)

theorem Root.CopiedAs.settle
    {program copy : Program Number}
    {root : Root program}
    {other : Root copy}
    (same : root.CopiedAs pairs other)
    (copied : program.CopiedAs pairs copy) :
    ∃ more, pairs ≤ more ∧ root.settle.program.CopiedAs more other.settle.program ∧
      more root.settle.ref.val other.settle.ref.val := by
  cases same with
  | @pending node other fits otherFits same =>
      exact ⟨_, fun _ _ paired => .inl paired, copied.push same fits otherFits, .inr ⟨rfl, rfl⟩⟩
  | built paired => exact ⟨pairs, le_rfl, copied, paired⟩

/-- Two builders differ only in where the nodes are that the one or the other can come upon. -/
structure Builder.CopiedAs (pairs : Nat → Nat → Prop) (builder copy : Builder Number) : Prop where
  program : builder.program.CopiedAs pairs copy.program
  root : Option.Rel (Root.CopiedAs pairs) builder.root copy.root
  nextIdentifier : builder.nextIdentifier = copy.nextIdentifier
  fault : builder.fault = copy.fault

namespace Builder.CopiedAs

variable {builder copy : Builder Number}

theorem source
    (copied : builder.CopiedAs pairs copy)
    (name : String)
    (declared : Source Number) :
    (builder.source name declared).CopiedAs pairs (copy.source name declared) where
  program := copied.program
  root := .some <| .pending ⟨by simp [copied.nextIdentifier], .nil⟩
  nextIdentifier := congrArg (· + 1) copied.nextIdentifier
  fault := copied.fault

theorem startFrom
    (copied : builder.CopiedAs pairs copy)
    {ref : builder.program.Ref}
    {other : copy.program.Ref}
    (paired : pairs ref.val other.val) :
    (builder.startFrom ref).CopiedAs pairs (copy.startFrom other) where
  program := copied.program
  root := .some <| .built paired
  nextIdentifier := copied.nextIdentifier
  fault := copied.fault

theorem declare
    (copied : builder.CopiedAs pairs copy)
    {change : Node Number → Node Number}
    (keepsWiring : ∀ node position, node.Fits position → (change node).Fits position)
    (keepsInputs : ∀ node inputs, change { node with inputs } = { change node with inputs }) :
    (builder.declare change keepsWiring).CopiedAs pairs (copy.declare change keepsWiring) := by
  obtain ⟨program, root, nextIdentifier, fault⟩ := builder
  obtain ⟨otherProgram, otherRoot, otherNext, otherFault⟩ := copy
  obtain ⟨programs, roots, sameNext, sameFault⟩ := copied
  change Option.Rel (Root.CopiedAs pairs) root otherRoot at roots
  refine ⟨programs, ?_, sameNext, sameFault⟩
  cases roots with
  | none => exact .none
  | some same =>
      cases same with
      | pending same => exact .some <| .pending (same.declare keepsInputs)
      | built paired => exact .some <| .built paired

/-- Adding the same node leaves two builders alike, where the current nodes are paired if they are in programs now. -/
theorem append
    (copied : builder.CopiedAs pairs copy)
    (name : String)
    (operator : Operator Number)
    {others : List builder.program.Ref}
    {otherCopies : List copy.program.Ref}
    (counted : others.length + 1 = operator.arity)
    (copiesCounted : otherCopies.length + 1 = operator.arity)
    (paired : List.Forall₂ pairs (others.map Fin.val) (otherCopies.map Fin.val)) :
    ∃ more, pairs ≤ more ∧
      (builder.append name operator others counted).CopiedAs more
        (copy.append name operator otherCopies copiesCounted) := by
  obtain ⟨program, root, nextIdentifier, fault⟩ := builder
  obtain ⟨otherProgram, otherRoot, otherNext, otherFault⟩ := copy
  obtain ⟨programs, roots, rfl, rfl⟩ := copied
  change Option.Rel (Root.CopiedAs pairs) root otherRoot at roots
  cases roots with
  | none => exact ⟨pairs, le_rfl, ⟨programs, .none, rfl, rfl⟩⟩
  | some same =>
      obtain ⟨more, stillPaired, settled, refsPaired⟩ := same.settle programs
      have inputsPaired := List.Forall₂.cons refsPaired (paired.imp stillPaired)
      exact ⟨more, stillPaired, settled, .some <| .pending ⟨rfl, inputsPaired⟩, rfl, rfl⟩

/-- Asked for their current nodes, both builders refuse for the same reason, or give nodes that are paired. -/
theorem build (copied : builder.CopiedAs pairs copy) :
    ∃ more, pairs ≤ more ∧ builder.build.builder.CopiedAs more copy.build.builder ∧
      List.Forall₂ more (builder.build.outcome.toOption.toList.map Fin.val)
        (copy.build.outcome.toOption.toList.map Fin.val) := by
  obtain ⟨program, root, nextIdentifier, fault⟩ := builder
  obtain ⟨otherProgram, otherRoot, otherNext, otherFault⟩ := copy
  obtain ⟨programs, roots, sameNext, rfl⟩ := copied
  change Option.Rel (Root.CopiedAs pairs) root otherRoot at roots
  cases fault with
  | some fault => exact ⟨pairs, le_rfl, ⟨programs, .none, sameNext, rfl⟩, .nil⟩
  | none =>
      cases roots with
      | none => exact ⟨pairs, le_rfl, ⟨programs, .none, sameNext, rfl⟩, .nil⟩
      | some same =>
          obtain ⟨more, stillPaired, settled, refsPaired⟩ := same.settle programs
          exact ⟨more, stillPaired, ⟨settled, .none, sameNext, rfl⟩, .cons refsPaired .nil⟩

end Builder.CopiedAs

namespace Session

/-- Two callers hold the same nodes, from builders that are alike. -/
structure CopiedAs (pairs : Nat → Nat → Prop) (session copy : Session Number) : Prop where
  builder : session.builder.CopiedAs pairs copy.builder
  held : List.Forall₂ pairs session.positions copy.positions

/-- Two sessions differ only in where the nodes are that the one or the other caller can come upon. -/
def Alike (session copy : Session Number) : Prop := ∃ pairs, session.CopiedAs pairs copy

variable {session copy : Session Number}

theorem CopiedAs.advance
    {next other : Builder Number}
    {grows : session.builder.program.GrowsTo next.program}
    {otherGrows : copy.builder.program.GrowsTo other.program}
    (copied : session.CopiedAs pairs copy)
    (goesOn : ∃ more, pairs ≤ more ∧ next.CopiedAs more other) :
    (session.advance next grows).Alike (copy.advance other otherGrows) := by
  obtain ⟨more, stillPaired, builders⟩ := goesOn
  refine ⟨more, builders, ?_⟩
  rw [positions_advance, positions_advance]
  exact copied.held.imp stillPaired

theorem CopiedAs.ask (copied : session.CopiedAs pairs copy) : session.ask.Alike copy.ask := by
  obtain ⟨more, stillPaired, builders, answersPaired⟩ := copied.builder.build
  refine ⟨more, builders, ?_⟩
  rw [positions_ask, positions_ask]
  exact List.rel_append (copied.held.imp stillPaired) answersPaired

/-- A call that names a held node is made on nodes that are paired, or on neither side. -/
theorem CopiedAs.withPlace
    (copied : session.CopiedAs pairs copy)
    (place : Nat)
    {onSession : session.builder.program.Ref → Session Number}
    {onCopy : copy.builder.program.Ref → Session Number}
    (each : ∀ ref other, pairs ref.val other.val → (onSession ref).Alike (onCopy other)) :
    Option.Rel Alike (session.held[place]?.map onSession) (copy.held[place]?.map onCopy) := by
  have paired := rel_getElem?_of_forall₂
    (List.forall₂_map_right_iff.mp (List.forall₂_map_left_iff.mp copied.held)) place
  generalize session.held[place]? = found at paired ⊢
  generalize copy.held[place]? = otherFound at paired ⊢
  cases paired with
  | none => exact .none
  | some paired => exact .some (each _ _ paired)

/-- The same call leaves two sessions alike. -/
theorem CopiedAs.call?
    (copied : session.CopiedAs pairs copy)
    (call : Call Number) :
    Option.Rel Alike (session.call? call) (copy.call? call) := by
  have builders := copied.builder
  cases call with
  | source name declared => exact .some <| copied.advance ⟨pairs, le_rfl, builders.source name declared⟩
  | startFrom place =>
      exact copied.withPlace place fun ref other paired =>
        copied.advance ⟨pairs, le_rfl, builders.startFrom paired⟩
  | map name preserved => exact .some <| copied.advance <| builders.append name _ rfl rfl .nil
  | reduce name keys combinable preserved =>
      exact .some <| copied.advance <| builders.append name _ rfl rfl .nil
  | join name keys preserved place =>
      exact copied.withPlace place fun ref other paired =>
        copied.advance <| builders.append name (.join keys preserved) rfl rfl (.cons paired .nil)
  | cross name preserved place =>
      exact copied.withPlace place fun ref other paired =>
        copied.advance <| builders.append name (.cross preserved) rfl rfl (.cons paired .nil)
  | sink name => exact .some <| copied.advance <| builders.append name _ rfl rfl .nil
  | parallelism count => exact .some <| copied.advance ⟨pairs, le_rfl, builders.declare _ fun _ _ => rfl⟩
  | hints hints => exact .some <| copied.advance ⟨pairs, le_rfl, builders.declare _ fun _ _ => rfl⟩
  | restrict restrictions =>
      exact .some <| copied.advance ⟨pairs, le_rfl, builders.declare _ fun _ _ => rfl⟩
  | build => exact .some copied.ask

/-- The same calls leave two sessions alike. -/
theorem Alike.run?
    (alike : session.Alike copy)
    (calls : List (Call Number)) :
    Option.Rel Alike (session.run? calls) (copy.run? calls) := by
  induction calls generalizing session copy with
  | nil => exact .some alike
  | cons call rest inductionHypothesis =>
      obtain ⟨pairs, copied⟩ := alike
      have called := copied.call? call
      rw [Session.run?, Session.run?, List.foldlM_cons, List.foldlM_cons]
      generalize session.call? call = next at called ⊢
      generalize copy.call? call = other at called ⊢
      cases called with
      | none => exact .none
      | some alike => exact inductionHypothesis alike

end Session

end Dataflow
