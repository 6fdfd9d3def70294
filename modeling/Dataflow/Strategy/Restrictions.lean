import Dataflow.Strategy.Driver
import Dataflow.Strategy.Ship

namespace Dataflow

/-!
# Restrictions

What the author of a program demands of the execution of one operator: the admitted drivers, and the
kind of shipping forced on each input.
-/

/-- Something that may be declared for either input of an operator. -/
structure InputSlots (Item : Type) where
  first : Option Item := none
  second : Option Item := none
  deriving Repr, DecidableEq

namespace InputSlots

variable {Item : Type}

/-- What is declared for an input. -/
def get? (slots : InputSlots Item) : Nat → Option Item
  | 0 => slots.first
  | 1 => slots.second
  | _ => none

/-- The slots with a declaration for an input.  There are two inputs, and no others can be declared. -/
def set (slots : InputSlots Item) (input : Nat) (item : Item) : InputSlots Item :=
  match input with
  | 0 => { slots with first := some item }
  | 1 => { slots with second := some item }
  | _ => slots

/-- The slots of a list of declarations, in which later ones win. -/
def ofList (declarations : List (Nat × Item)) : InputSlots Item :=
  declarations.foldl (fun slots declaration => slots.set declaration.1 declaration.2) {}

end InputSlots

/-- Restrictions on the execution of one operator. -/
structure Restrictions where
  /-- The admitted drivers; all of them when nothing is declared. -/
  drivers : Option (SortedSet DriverKind) := none
  /-- The kind of shipping forced on each input. -/
  shipping : InputSlots ShipKind := {}
  deriving Repr, DecidableEq

namespace Restrictions

/-- Whether a driver is admitted. -/
def admits (restrictions : Restrictions) (kind : DriverKind) : Bool :=
  match restrictions.drivers with
  | some kinds => decide (kind ∈ kinds)
  | none => true

end Restrictions

end Dataflow
