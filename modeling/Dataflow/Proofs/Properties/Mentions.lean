import Dataflow.Proofs.Properties.Projection

namespace Dataflow

/-!
# Fields that properties mention

Properties are statements about the values of some fields.  Restricting them to retained fields leaves only what can
be said of these, and no combination of properties mentions a field that none of them did.
-/

/-- Some of the sets has the field. -/
def FieldSets.Mentions (sets : FieldSets) (field : Field) : Prop :=
  ∃ fields ∈ sets, field ∈ fields

theorem FieldSets.mem_of_mentions_within
    {sets : FieldSets}
    {retained : FieldSet}
    {field : Field}
    (mentions : (sets.within retained).Mentions field) :
    field ∈ retained := by
  obtain ⟨fields, isThere, isField⟩ := mentions
  have within : fields ⊆ retained := of_decide_eq_true (SortedSet.mem_filter.mp isThere).2
  exact within field isField

theorem FieldSets.mentions_of_mentions_union
    {first second : FieldSets}
    {field : Field}
    (mentions : FieldSets.Mentions (first.union second) field) :
    first.Mentions field ∨ second.Mentions field := by
  obtain ⟨fields, isThere, isField⟩ := mentions
  exact (SortedSet.mem_union.mp isThere).imp (⟨fields, ·, isField⟩) (⟨fields, ·, isField⟩)

namespace GlobalProperties

/-- The fields that decide on the partition, or are part of a unique combination. -/
def Mentions (properties : GlobalProperties) (field : Field) : Prop :=
  (∃ deciding ∈ properties.partitioning.fields?, field ∈ deciding) ∨
    ∃ unique ∈ properties.uniqueSets, field ∈ unique

variable {properties first second : GlobalProperties} {field : Field}

theorem not_mentions_random : ¬ random.Mentions field := by
  rintro (⟨_, isDeciding, _⟩ | ⟨fields, isThere, _⟩)
  · exact nomatch isDeciding
  · exact absurd isThere (SortedSet.not_mem_empty fields)

theorem mem_of_mentions_retain
    {retained : FieldSet}
    (mentions : (properties.retain retained).Mentions field) :
    field ∈ retained := by
  rcases mentions with ⟨deciding, isDeciding, isField⟩ | unique
  · unfold retain at isDeciding
    split at isDeciding
    · rename_i fields isFields
      split at isDeciding
      · rename_i within
        obtain rfl : fields = deciding := Option.some.inj (isFields.symm.trans isDeciding)
        exact within field isField
      · exact nomatch isDeciding
    · rename_i undecided
      exact absurd (undecided.symm.trans isDeciding) (by simp)
  · exact FieldSets.mem_of_mentions_within unique

theorem mentions_of_mentions_clearUnique
    (mentions : properties.clearUnique.Mentions field) :
    properties.Mentions field := by
  rcases mentions with decides | ⟨fields, isThere, _⟩
  · exact .inl decides
  · exact absurd isThere (SortedSet.not_mem_empty fields)

theorem mentions_of_mentions_combine
    (mentions : (combine first second).Mentions field) :
    first.Mentions field ∨ second.Mentions field := by
  rcases mentions with decides | unique
  · by_cases replicated : first.isReplicated = true
    · rw [combine, if_pos replicated] at decides
      exact .inr (.inl decides)
    · rw [combine, if_neg replicated] at decides
      exact .inl (.inl decides)
  · exact (FieldSets.mentions_of_mentions_union unique).imp .inr .inr

end GlobalProperties

namespace LocalProperties

/-- The records are sorted or grouped by the field and others, or it is in a unique combination. -/
def Mentions (properties : LocalProperties) (field : Field) : Prop :=
  (∃ order ∈ properties.order, field ∈ order.fields) ∨
    (∃ fields ∈ properties.grouped, field ∈ fields) ∨ properties.uniqueSets.Mentions field

variable {properties : LocalProperties} {field : Field}

theorem mem_of_mentions_retain
    {retained : FieldSet}
    (mentions : (properties.retain retained).Mentions field) :
    field ∈ retained := by
  rcases mentions with ⟨kept, isKept, isField⟩ | ⟨fields, isGrouped, isField⟩ | unique
  · obtain ⟨order, _, isRetained⟩ := Option.bind_eq_some_iff.mp isKept
    obtain ⟨column, isColumn, rfl⟩ := List.mem_map.mp isField
    rw [(SortOrder.retain?_eq_some_iff.mp isRetained).1] at isColumn
    exact of_decide_eq_true (List.all_eq_true.mp List.all_takeWhile column isColumn)
  · have within : fields ⊆ retained := of_decide_eq_true (Option.filter_eq_some_iff.mp isGrouped).2
    exact within field isField
  · exact FieldSets.mem_of_mentions_within unique

end LocalProperties

end Dataflow
