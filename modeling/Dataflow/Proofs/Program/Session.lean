import Dataflow.Program.Builder
import Mathlib.Data.List.Induction

namespace Dataflow

/-!
# Sessions with a builder

A caller makes one call after another on a builder, and keeps every node that it asked for, to start from it again
or to read it as a further input.  A session is the builder together with these nodes.  What one call can do to a
session is said once, by `Session.Step`.
-/

/-- One call on a builder.  Nodes of earlier builds are named by their places among those that the caller holds. -/
inductive Call (Number : Type) where
  | source (name : String) (declared : Source Number)
  | startFrom (place : Nat)
  | map (name : String) (preserved : Option FieldSet)
  | reduce (name : String) (keys : FieldSet) (combinable : Bool) (preserved : Option FieldSet)
  | join (name : String) (keys : JoinKeys) (preserved : InputSlots FieldSet) (right : Nat)
  | cross (name : String) (preserved : InputSlots FieldSet) (right : Nat)
  | sink (name : String)
  | parallelism (count : Nat)
  | hints (hints : Hints Number)
  | restrict (restrictions : Restrictions)
  | build

namespace Call

variable {Number : Type}

/-- The name of the node that a call adds to read the current one. -/
def reader? : Call Number → Option String
  | .map name _ | .reduce name _ _ _ | .join name _ _ _ | .cross name _ _ | .sink name => some name
  | _ => none

/-- The place of the held node that a call names. -/
def place? : Call Number → Option Nat
  | .startFrom place | .join _ _ _ place | .cross _ _ place => some place
  | _ => none

/-- Whether there is a current node after a call, whatever was there before. -/
def starts : Call Number → Bool
  | .source _ _ | .startFrom _ => true
  | _ => false

/-- Whether a call only declares something about the current node. -/
def declares : Call Number → Bool
  | .parallelism _ | .hints _ | .restrict _ => true
  | _ => false

/-- Whether a call asks for the current node. -/
def isBuild : Call Number → Bool
  | .build => true
  | _ => false

end Call

/-- The second program has the nodes of the first one, none of them moved or changed, and then maybe more. -/
def Program.GrowsTo {Number : Type} (program grown : Program Number) : Prop :=
  program.nodes.toList <+: grown.nodes.toList

namespace Program.GrowsTo

variable {Number : Type} {program grown last : Program Number}

theorem refl (program : Program Number) : program.GrowsTo program :=
  List.prefix_refl _

theorem trans
    (before : program.GrowsTo grown)
    (after : grown.GrowsTo last) :
    program.GrowsTo last :=
  List.IsPrefix.trans before after

theorem size_le (grows : program.GrowsTo grown) : program.size ≤ grown.size :=
  List.IsPrefix.length_le grows

theorem push
    {node : Node Number}
    (fits : node.Fits program.size) :
    program.GrowsTo (program.push node fits) := by
  unfold GrowsTo Program.push
  rw [Array.toList_push]
  exact List.prefix_append _ _

end Program.GrowsTo

theorem Root.growsTo_settle
    {Number : Type}
    {program : Program Number}
    (root : Root program) :
    program.GrowsTo root.settle.program := by
  cases root with
  | pending node fits => exact .push fits
  | built ref => exact .refl program

namespace Builder

variable {Number : Type}

/-- Change what is declared about the node added last. -/
def declare
    (builder : Builder Number)
    (change : Node Number → Node Number)
    (keepsWiring : ∀ node position, node.Fits position → (change node).Fits position) :
    Builder Number :=
  { builder with root := builder.root.map (Root.declare change keepsWiring) }

theorem growsTo_append
    (builder : Builder Number)
    (name : String)
    (operator : Operator Number)
    (others : List builder.program.Ref)
    (counted : others.length + 1 = operator.arity) :
    builder.program.GrowsTo (builder.append name operator others counted).program := by
  obtain ⟨program, root, nextIdentifier, fault⟩ := builder
  cases root with
  | none => exact .refl program
  | some root => exact root.growsTo_settle

theorem growsTo_build (builder : Builder Number) :
    builder.program.GrowsTo builder.build.builder.program := by
  obtain ⟨program, root, nextIdentifier, fault⟩ := builder
  cases fault with
  | some fault => exact .refl program
  | none =>
      cases root with
      | none => exact .refl program
      | some root => exact root.growsTo_settle

end Builder

/-- A builder, and the nodes that its caller holds in the order in which it got them. -/
structure Session (Number : Type) where
  builder : Builder Number := {}
  held : List builder.program.Ref := []

namespace Session

variable {Number : Type}

/-- A new builder that counts identifiers from a given one, for a caller that holds nodes already. -/
def fresh (program : Program Number) (held : List program.Ref) (nextIdentifier : Nat := 0) : Session Number where
  builder := { program, nextIdentifier }
  held := held

/-- The positions of the nodes that the caller holds. -/
def positions (session : Session Number) : List Nat := session.held.map Fin.val

/-- The caller goes on with another builder, whose program has all its nodes. -/
def advance
    (session : Session Number)
    (next : Builder Number)
    (grows : session.builder.program.GrowsTo next.program) :
    Session Number where
  builder := next
  held := session.held.map (Fin.castLE grows.size_le)

/-- The caller asks for the current node, and holds it afterwards if there is one. -/
def ask (session : Session Number) : Session Number where
  builder := session.builder.build.builder
  held := session.held.map (Fin.castLE session.builder.growsTo_build.size_le) ++
    session.builder.build.outcome.toOption.toList

/-- Make a call, unless it names a node that the caller does not hold. -/
def call? (session : Session Number) : Call Number → Option (Session Number)
  | .source name declared => some <| session.advance (session.builder.source name declared) (.refl _)
  | .startFrom place =>
      session.held[place]?.map fun node => session.advance (session.builder.startFrom node) (.refl _)
  | .map name preserved =>
      some <| session.advance (session.builder.map name preserved) (session.builder.growsTo_append ..)
  | .reduce name keys combinable preserved =>
      some <| session.advance (session.builder.reduce name keys combinable preserved)
        (session.builder.growsTo_append ..)
  | .join name keys preserved place =>
      session.held[place]?.map fun right =>
        session.advance (session.builder.join name keys preserved right) (session.builder.growsTo_append ..)
  | .cross name preserved place =>
      session.held[place]?.map fun right =>
        session.advance (session.builder.cross name preserved right) (session.builder.growsTo_append ..)
  | .sink name => some <| session.advance (session.builder.sink name) (session.builder.growsTo_append ..)
  | .parallelism count => some <| session.advance (session.builder.parallelism count) (.refl _)
  | .hints hints => some <| session.advance (session.builder.hints hints) (.refl _)
  | .restrict restrictions => some <| session.advance (session.builder.restrict restrictions) (.refl _)
  | .build => some session.ask

/-- A call is made unless it names a node that the caller does not hold. -/
theorem isSome_call?_iff
    {session : Session Number}
    {call : Call Number} :
    (session.call? call).isSome = true ↔ ∀ place ∈ call.place?, place < session.held.length := by
  cases call <;> simp [call?, Call.place?]

/-- Make calls one after another. -/
def run? (session : Session Number) (calls : List (Call Number)) : Option (Session Number) :=
  calls.foldlM call? session

/-- What one call does to a session. -/
inductive Step (session : Session Number) : Call Number → Session Number → Prop where
  | source (name : String) (declared : Source Number) :
      Step session (.source name declared)
        (session.advance (session.builder.source name declared) (.refl _))
  | startFrom {place : Nat} (node : session.builder.program.Ref) :
      Step session (.startFrom place) (session.advance (session.builder.startFrom node) (.refl _))
  | append {call : Call Number} {name : String} (reads : call.reader? = some name)
      (operator : Operator Number) (others : List session.builder.program.Ref)
      (counted : others.length + 1 = operator.arity) :
      Step session call
        (session.advance (session.builder.append name operator others counted)
          (session.builder.growsTo_append ..))
  | declare {call : Call Number} (declares : call.declares = true)
      (change : Node Number → Node Number)
      (keepsWiring : ∀ node position, node.Fits position → (change node).Fits position)
      (keepsIdentifier : ∀ node, (change node).identifier = node.identifier) :
      Step session call (session.advance (session.builder.declare change keepsWiring) (.refl _))
  | build : Step session .build session.ask

theorem step_of_call?
    {session next : Session Number}
    {call : Call Number}
    (called : session.call? call = some next) :
    session.Step call next := by
  cases call with
  | source name declared => exact Option.some.inj called ▸ .source name declared
  | startFrom place =>
      obtain ⟨node, _, rfl⟩ := Option.map_eq_some_iff.mp called
      exact .startFrom node
  | map name preserved => exact Option.some.inj called ▸ .append rfl _ [] rfl
  | reduce name keys combinable preserved => exact Option.some.inj called ▸ .append rfl _ [] rfl
  | join name keys preserved place =>
      obtain ⟨right, _, rfl⟩ := Option.map_eq_some_iff.mp called
      exact .append rfl (.join keys preserved) [right] rfl
  | cross name preserved place =>
      obtain ⟨right, _, rfl⟩ := Option.map_eq_some_iff.mp called
      exact .append rfl (.cross preserved) [right] rfl
  | sink name => exact Option.some.inj called ▸ .append rfl _ [] rfl
  | parallelism count => exact Option.some.inj called ▸ .declare rfl _ _ fun _ => rfl
  | hints hints => exact Option.some.inj called ▸ .declare rfl _ _ fun _ => rfl
  | restrict restrictions => exact Option.some.inj called ▸ .declare rfl _ _ fun _ => rfl
  | build => exact Option.some.inj called ▸ .build

theorem run?_concat
    {session last : Session Number}
    {calls : List (Call Number)}
    {call : Call Number} :
    session.run? (calls ++ [call]) = some last ↔
      ∃ next, session.run? calls = some next ∧ next.call? call = some last := by
  simp [run?, List.foldlM_append, Option.bind_eq_some_iff]

/-- What holds at the start, and is kept by every step, holds after every sequence of calls. -/
theorem run?_induction
    {start session : Session Number}
    {calls : List (Call Number)}
    {motive : List (Call Number) → Session Number → Prop}
    (atStart : motive [] start)
    (step : ∀ {calls session call next}, motive calls session → session.Step call next →
      motive (calls ++ [call]) next)
    (ran : start.run? calls = some session) :
    motive calls session := by
  induction calls using List.reverseRecOn generalizing session with
  | nil => exact Option.some.inj ran ▸ atStart
  | append_singleton calls call inductionHypothesis =>
      obtain ⟨before, ranBefore, called⟩ := run?_concat.mp ran
      exact step (inductionHypothesis ranBefore) (step_of_call? called)

/-- No node is lost or changed between two sessions, and the caller still holds those that it held. -/
structure Continues (session next : Session Number) : Prop where
  program : session.builder.program.GrowsTo next.builder.program
  held : session.positions <+: next.positions

theorem Continues.refl (session : Session Number) : session.Continues session :=
  ⟨.refl _, List.prefix_refl _⟩

theorem Continues.trans
    {session next last : Session Number}
    (before : session.Continues next)
    (after : next.Continues last) :
    session.Continues last :=
  ⟨before.program.trans after.program, before.held.trans after.held⟩

@[simp]
theorem positions_advance
    {session : Session Number}
    {next : Builder Number}
    {grows : session.builder.program.GrowsTo next.program} :
    (session.advance next grows).positions = session.positions := by
  simp [positions, advance, Function.comp_def]

theorem continues_advance
    {session : Session Number}
    {next : Builder Number}
    {grows : session.builder.program.GrowsTo next.program} :
    session.Continues (session.advance next grows) :=
  ⟨grows, positions_advance ▸ List.prefix_refl _⟩

@[simp]
theorem positions_ask
    {session : Session Number} :
    session.ask.positions =
      session.positions ++ session.builder.build.outcome.toOption.toList.map Fin.val := by
  simp [positions, ask, Function.comp_def]

theorem continues_ask {session : Session Number} : session.Continues session.ask :=
  ⟨session.builder.growsTo_build, positions_ask ▸ List.prefix_append _ _⟩

theorem continues_of_run?
    {start session : Session Number}
    {calls : List (Call Number)}
    (ran : start.run? calls = some session) :
    start.Continues session := by
  refine run?_induction (motive := fun _ session => start.Continues session) (.refl start) ?_ ran
  intro calls session call next continues step
  cases step with
  | build => exact continues.trans continues_ask
  | _ => exact continues.trans continues_advance

end Session

end Dataflow
