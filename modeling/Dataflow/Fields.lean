import Dataflow.Sorted.Set

namespace Dataflow

/-!
# Fields of records

Records are addressed by field positions.  A field list keeps its order and repetitions, as the columns
of a sort order or the keys of a join need; a field set knows only which fields it holds.
-/

/-- The position of a field in a record. -/
abbrev Field := Nat

/-- Field positions in a given order, possibly repeated. -/
abbrev FieldList := List Field

/-- A set of field positions. -/
abbrev FieldSet := SortedSet Field

/-- A collection of field sets, as needed for the field combinations whose values are unique. -/
abbrev FieldSets := SortedSet FieldSet

namespace FieldList

/-- The fields of a list as a set. -/
def toSet (fields : FieldList) : FieldSet := SortedSet.ofList fields

@[simp]
theorem mem_toSet
    {fields : FieldList}
    {field : Field} :
    field ∈ fields.toSet ↔ field ∈ fields :=
  SortedSet.mem_ofList

/-- The index at which a field occurs first. -/
def position? (fields : FieldList) (field : Field) : Option Nat := fields.idxOf? field

/-- A field list is written in parentheses. -/
def render (fields : FieldList) : String :=
  "(" ++ String.intercalate ", " (fields.map toString) ++ ")"

end FieldList

namespace FieldSet

/-- The fields of a set in increasing order. -/
def toFieldList (fields : FieldSet) : FieldList := fields.toList

/-- The increasing list of a set has the elements of the set. -/
@[simp]
theorem toSet_toFieldList (fields : FieldSet) : fields.toFieldList.toSet = fields :=
  SortedSet.ext fun _ => FieldList.mem_toSet

/-- A field set is written in braces. -/
def render (fields : FieldSet) : String :=
  "\x7b" ++ String.intercalate ", " (fields.toList.map toString) ++ "\x7d"

end FieldSet

namespace FieldSets

/-- The sets that mention only retained fields. -/
def within (retained : FieldSet) (sets : FieldSets) : FieldSets :=
  sets.filter fun fields => decide (fields ⊆ retained)

/--
Every set of the second collection has a subset in the first one.  A unique field combination makes
all its supersets unique, so the first collection then implies the second.
-/
def Covers (first second : FieldSets) : Prop :=
  ∀ fields ∈ second.toList, ∃ covering ∈ first.toList, covering ⊆ fields

instance (first second : FieldSets) : Decidable (Covers first second) :=
  inferInstanceAs (Decidable (∀ fields ∈ second.toList, ∃ covering ∈ first.toList, covering ⊆ fields))

/-- A collection of field sets is written in braces. -/
def render (sets : FieldSets) : String :=
  "\x7b" ++ String.intercalate ", " (sets.toList.map FieldSet.render) ++ "\x7d"

end FieldSets

end Dataflow
