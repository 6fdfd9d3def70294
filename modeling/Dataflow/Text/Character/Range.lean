namespace Dataflow.Text

/-!
# Ranges of characters

Classes of characters are given by ranges of code points.
-/

/-- The code points from a first to a last one, both included. -/
structure CodeRange where
  first : Nat
  last : Nat
  deriving Repr, DecidableEq

namespace CodeRange

/-- Whether a code point lies in a range. -/
def contains (range : CodeRange) (code : Nat) : Bool :=
  decide (range.first ≤ code) && decide (code ≤ range.last)

/-- A code point lies in a range between its ends. -/
theorem contains_iff (range : CodeRange) (code : Nat) :
    range.contains code = true ↔ range.first ≤ code ∧ code ≤ range.last := by
  simp [contains]

/-- The ranges of a table that lists the ends of one range after the other. -/
def ofEnds : List Nat → List CodeRange
  | first :: last :: rest => { first, last } :: ofEnds rest
  | _ => []

end CodeRange

/-- Whether a character is in one of some ranges. -/
def isWithin (ranges : List CodeRange) (character : Char) : Bool :=
  ranges.any (·.contains character.toNat)

/-- A character is within ranges exactly if it lies between the ends of one of them. -/
theorem isWithin_iff (ranges : List CodeRange) (character : Char) :
    isWithin ranges character = true ↔
      ∃ range ∈ ranges, range.first ≤ character.toNat ∧ character.toNat ≤ range.last := by
  simp [isWithin, CodeRange.contains_iff]

end Dataflow.Text
