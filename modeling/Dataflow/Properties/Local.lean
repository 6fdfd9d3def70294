import Dataflow.Properties.SortOrder

namespace Dataflow

/-!
# Local properties

How the records inside each partition follow one another: sorted by an order, or grouped so that records
which agree on some fields are adjacent, and which field combinations are unique inside a partition.
-/

/-- What is known about each partition of a data set. -/
structure LocalProperties where
  order : Option SortOrder := none
  grouped : Option FieldSet := none
  /-- Field combinations on which no two records of a partition agree. -/
  uniqueSets : FieldSets := .empty
  deriving Repr, DecidableEq

namespace LocalProperties

/-- Nothing is known. -/
def none : LocalProperties := {}

/-- The records are sorted. -/
def sortedBy (order : SortOrder) : LocalProperties := { order := some order }

/-- Records that agree on the fields are adjacent. -/
def groupedBy (fields : FieldSet) : LocalProperties := { grouped := some fields }

/-- Properties with one more unique field combination. -/
def addUnique (fields : FieldSet) (properties : LocalProperties) : LocalProperties :=
  { properties with uniqueSets := properties.uniqueSets.insert fields }

/-- Properties with more unique field combinations. -/
def addUniqueSets (sets : FieldSets) (properties : LocalProperties) : LocalProperties :=
  { properties with uniqueSets := properties.uniqueSets.union sets }

/-- Whether nothing is known. -/
def isTrivial (properties : LocalProperties) : Bool :=
  properties.order.isNone && properties.grouped.isNone && properties.uniqueSets.isEmpty

/--
Records that agree on the fields are adjacent: they are declared to be, or the records are sorted by
these fields first, or no two records of a partition agree on them.
-/
def IsGroupedOn (properties : LocalProperties) (fields : FieldSet) : Prop :=
  properties.grouped = some fields ∨
    (properties.order.bind fun order => order.leadingFields? fields.size) = some fields ∨
    ∃ unique ∈ properties.uniqueSets.toList, unique ⊆ fields

instance (properties : LocalProperties) (fields : FieldSet) :
    Decidable (IsGroupedOn properties fields) :=
  inferInstanceAs (Decidable (_ ∨ _ ∨ ∃ unique ∈ properties.uniqueSets.toList, unique ⊆ fields))

/-- The records are sorted by an order that refines the given one. -/
def IsSortedBy (properties : LocalProperties) (order : SortOrder) : Prop :=
  ∃ delivered ∈ properties.order, delivered.StartsWith order

instance (properties : LocalProperties) (order : SortOrder) :
    Decidable (IsSortedBy properties order) :=
  match found : properties.order with
  | some delivered =>
      decidable_of_iff (delivered.StartsWith order) (by simp [IsSortedBy, found])
  | .none => isFalse (by simp [IsSortedBy, found])

/-- What remains known when only the retained fields keep their values. -/
def retain (properties : LocalProperties) (retained : FieldSet) : LocalProperties where
  order := properties.order.bind fun order => order.retain? retained
  grouped := properties.grouped.filter fun fields => decide (fields ⊆ retained)
  uniqueSets := properties.uniqueSets.within retained

/-- The first properties are at least as strong as the second ones. -/
def Implies (first second : LocalProperties) : Prop :=
  (∀ order ∈ second.order, first.IsSortedBy order) ∧
    (∀ fields ∈ second.grouped, first.IsGroupedOn fields) ∧
    first.uniqueSets.Covers second.uniqueSets

instance (first second : LocalProperties) : Decidable (Implies first second) :=
  inferInstanceAs (Decidable (_ ∧ _ ∧ _))

/-- The known properties one after another, or a word for their absence. -/
def render (properties : LocalProperties) : String :=
  if properties.isTrivial then
    "none"
  else
    String.intercalate " " <|
      (properties.order.map fun order => "ordered" ++ order.render).toList ++
        (properties.grouped.map fun fields => "grouped" ++ fields.render).toList ++
        if properties.uniqueSets.isEmpty then [] else ["unique" ++ properties.uniqueSets.render]

end LocalProperties

end Dataflow
