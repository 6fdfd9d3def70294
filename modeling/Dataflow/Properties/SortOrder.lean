import Dataflow.Fields

namespace Dataflow

/-!
# Sort orders

A sort order compares records by one field after another, each in its own direction.
-/

/-- Whether smaller or larger values come first. -/
inductive Direction where
  | ascending
  | descending
  deriving Repr, DecidableEq

/-- One column of a sort order. -/
structure SortColumn where
  field : Field
  direction : Direction
  deriving Repr, DecidableEq

/-- Columns by which records are compared, the most significant one first. -/
structure SortOrder where
  columns : List SortColumn
  deriving Repr, DecidableEq

namespace SortOrder

/-- The sort order that compares all given fields in ascending direction. -/
def ascending (fields : FieldList) : SortOrder :=
  ⟨fields.map fun field => ⟨field, .ascending⟩⟩

/-- Number of columns. -/
def length (order : SortOrder) : Nat := order.columns.length

/-- Whether the order has no column, so that any sequence of records is sorted by it. -/
def isEmpty (order : SortOrder) : Bool := order.columns.isEmpty

/-- The fields of the columns, in column order. -/
def fields (order : SortOrder) : FieldList := order.columns.map SortColumn.field

/-- The set of fields that occur in some column. -/
def fieldSet (order : SortOrder) : FieldSet := order.fields.toSet

@[simp]
theorem fields_ascending (fields : FieldList) : (ascending fields).fields = fields := by
  simp [ascending, SortOrder.fields, Function.comp_def]

/-- The leading columns of the order are the columns of the other one, so that it refines the other. -/
def StartsWith (order leading : SortOrder) : Prop := leading.columns <+: order.columns

instance (order leading : SortOrder) : Decidable (StartsWith order leading) :=
  inferInstanceAs (Decidable (leading.columns <+: order.columns))

/-- The fields of the leading columns, provided that there are that many columns. -/
def leadingFields? (order : SortOrder) (count : Nat) : Option FieldSet :=
  if count ≤ order.length then
    some (FieldList.toSet (order.fields.take count))
  else
    none

/-- The longest run of leading columns on retained fields, provided that it is not empty. -/
def retain? (order : SortOrder) (retained : FieldSet) : Option SortOrder :=
  match order.columns.takeWhile fun column => decide (column.field ∈ retained) with
  | [] => none
  | kept => some ⟨kept⟩

/-- The columns in brackets, each with its direction. -/
def render (order : SortOrder) : String :=
  let column : SortColumn → String
    | ⟨field, .ascending⟩ => toString field ++ ":asc"
    | ⟨field, .descending⟩ => toString field ++ ":desc"
  "[" ++ String.intercalate ", " (order.columns.map column) ++ "]"

end SortOrder

end Dataflow
