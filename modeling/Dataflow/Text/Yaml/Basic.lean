namespace Dataflow.Text

/-!
# YAML values

The values of a document.  Values that are used in several places carry an anchor, and the other places
refer to it; as a value may contain a reference to itself, references stay in the tree.
-/

namespace Yaml

/-- How a scalar is written. -/
inductive Style where
  | plain
  | quoted
  /-- In lines below a header that are kept apart. -/
  | literal
  /-- In lines below a header that are joined. -/
  | folded
  deriving Repr, DecidableEq

end Yaml

/-- A value of a document. -/
inductive Yaml where
  | scalar (tag : Option String) (style : Yaml.Style) (text : String)
  | sequence (items : List Yaml)
  | mapping (entries : List (Yaml × Yaml))
  /-- A value with the number of its anchor. -/
  | anchored (anchor : Nat) (value : Yaml)
  /-- The value that has an anchor. -/
  | reference (anchor : Nat)

namespace Yaml

/-- The value that is not written. -/
def absent : Yaml := .scalar none .plain ""

mutual

/-- The value that an anchor is on; if there are several, the one that starts last. -/
def lastAnchored? (anchor : Nat) : Yaml → Option Yaml
  | .scalar _ _ _ => none
  | .reference _ => none
  | .sequence items => lastAnchoredInItems? anchor items
  | .mapping entries => lastAnchoredInEntries? anchor entries
  | .anchored number value =>
      (lastAnchored? anchor value).or (if number = anchor then some value else none)

/-- The value among items that an anchor is on. -/
def lastAnchoredInItems? (anchor : Nat) : List Yaml → Option Yaml
  | [] => none
  | item :: rest => (lastAnchoredInItems? anchor rest).or (lastAnchored? anchor item)

/-- The value among entries that an anchor is on. -/
def lastAnchoredInEntries? (anchor : Nat) : List (Yaml × Yaml) → Option Yaml
  | [] => none
  | (key, value) :: rest =>
      (lastAnchoredInEntries? anchor rest).or
        ((lastAnchored? anchor value).or (lastAnchored? anchor key))

end

/-- The value that is meant where a part of a document stands. -/
def resolve (root : Yaml) : Yaml → Yaml
  | .anchored _ value => value
  | .reference anchor => (root.lastAnchored? anchor).getD absent
  | value => value

/-- The text of a scalar. -/
def text? : Yaml → Option String
  | .scalar _ _ text => some text
  | _ => none

/--
The entries of a mapping within a document, provided that its keys are scalars; a mapping that is not
written has none.
-/
def settings? (root : Yaml) (value : Yaml) : Option (List (String × Yaml)) :=
  match root.resolve value with
  | .mapping entries =>
      entries.mapM fun entry =>
        (root.resolve entry.1).text?.map fun name => (name, root.resolve entry.2)
  | .scalar _ .plain "" => some []
  | _ => none

end Yaml

end Dataflow.Text
