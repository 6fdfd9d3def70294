import Dataflow.Proofs.Properties.Satisfaction

namespace Dataflow

/-!
# Projections and requests

What remains known when only some fields keep their values is never more than was known before.  It still meets
every request that it met before, provided that the request names retained fields only.
-/

namespace SortOrder

variable {order : SortOrder} {retained : FieldSet}

theorem retain?_eq_some_iff
    {kept : SortOrder} :
    order.retain? retained = some kept ↔
      kept.columns = order.columns.takeWhile (fun column => decide (column.field ∈ retained)) ∧
        kept.columns ≠ [] := by
  obtain ⟨keptColumns⟩ := kept
  unfold retain?
  cases order.columns.takeWhile fun column => decide (column.field ∈ retained) with
  | nil => simp
  | cons column rest =>
      simp only [Option.some.injEq, mk.injEq]
      constructor
      · rintro rfl
        exact ⟨rfl, List.cons_ne_nil column rest⟩
      · exact fun same => same.1.symm

/-- The retained columns are leading ones. -/
theorem startsWith_of_retain?
    {kept : SortOrder}
    (isKept : order.retain? retained = some kept) :
    order.StartsWith kept := by
  rw [StartsWith, (retain?_eq_some_iff.mp isKept).1]
  exact List.takeWhile_prefix _

/-- Leading columns on retained fields are retained. -/
theorem exists_retain?_of_startsWith
    {leading : SortOrder}
    (refines : order.StartsWith leading)
    (someColumn : leading.columns ≠ [])
    (within : leading.fieldSet ⊆ retained) :
    ∃ kept, order.retain? retained = some kept ∧ kept.StartsWith leading := by
  obtain ⟨further, columns_eq⟩ := refines
  have onRetained : ∀ column ∈ leading.columns, decide (column.field ∈ retained) = true := by
    intro column isColumn
    exact decide_eq_true (within column.field (FieldList.mem_toSet.mpr (List.mem_map_of_mem isColumn)))
  have isKept : order.columns.takeWhile (fun column => decide (column.field ∈ retained)) =
      leading.columns ++ further.takeWhile fun column => decide (column.field ∈ retained) := by
    rw [← columns_eq, List.takeWhile_append_of_pos onRetained]
  refine ⟨⟨_⟩, retain?_eq_some_iff.mpr ⟨rfl, ?_⟩, ?_⟩
  · rw [isKept]
    exact fun noColumn => someColumn (List.append_eq_nil_iff.mp noColumn).1
  · rw [StartsWith, isKept]
    exact List.prefix_append ..

end SortOrder

/-- Of the unique sets, those on retained fields follow from all of them. -/
theorem FieldSets.covers_within (retained : FieldSet) (sets : FieldSets) :
    sets.Covers (sets.within retained) := by
  intro fields isThere
  exact ⟨fields, (SortedSet.mem_filter.mp isThere).1, fun _ isField => isField⟩

namespace GlobalProperties

theorem implies_retain (properties : GlobalProperties) (retained : FieldSet) :
    properties.Implies (properties.retain retained) := by
  refine ⟨?_, FieldSets.covers_within retained properties.uniqueSets⟩
  unfold retain
  split
  · split
    · exact .refl _
    · cases properties.partitioning <;> trivial
  · exact .refl _

/-- A partitioning on retained fields is retained. -/
theorem partitioning_retain
    {properties : GlobalProperties}
    {retained : FieldSet}
    (within : ∀ deciding ∈ properties.partitioning.fields?, deciding ⊆ retained) :
    (properties.retain retained).partitioning = properties.partitioning := by
  unfold retain
  split
  · rename_i deciding isDeciding
    exact if_pos (within deciding isDeciding)
  · rfl

end GlobalProperties

namespace GlobalRequest

/-- The fields that a request names. -/
def fields : GlobalRequest → FieldSet
  | .any fields => fields
  | .hash fields => fields
  | .range order _ => order.fieldSet
  | .random => .empty
  | .replicated => .empty

variable {request : GlobalRequest} {delivered : GlobalProperties}

/-- What decides on the partition, where this meets a request, are fields of the request. -/
theorem IsMetBy.subset_fields
    (met : request.IsMetBy delivered)
    (demanding : request.isTrivial = false)
    {deciding : FieldSet}
    (isDeciding : delivered.partitioning.fields? = some deciding) :
    deciding ⊆ request.fields := by
  have spread : delivered.isReplicated = false := by
    cases isPartitioning : delivered.partitioning <;>
      simp_all [GlobalProperties.isReplicated, Partitioning.fields?]
  have ofPartitionedOn : ∀ {fields}, delivered.isPartitionedOn fields = true → deciding ⊆ fields := by
    intro fields partitioned
    obtain ⟨same, isSame, _, smaller⟩ := GlobalProperties.isPartitionedOn_iff.mp partitioned
    exact Option.some.inj (isDeciding.symm.trans isSame) ▸ smaller
  rw [IsMetBy, spread, Bool.false_or] at met
  cases request with
  | random => exact absurd demanding (by decide)
  | replicated => exact absurd met Bool.false_ne_true
  | any fields => exact ofPartitionedOn met
  | hash fields =>
      simp only [metByPartitioning] at met
      split at met
      · exact ofPartitionedOn met
      · exact absurd met Bool.false_ne_true
  | range order histogram =>
      simp only [metByPartitioning] at met
      split at met
      · rename_i deliveredOrder _ isRange
        obtain ⟨same, _⟩ := Bool.and_eq_true_iff.mp met
        obtain rfl : order = deliveredOrder := of_decide_eq_true same
        rw [isRange] at isDeciding
        exact Option.some.inj isDeciding ▸ fun _ isField => isField
      · exact absurd met Bool.false_ne_true

/-- Where the request names retained fields only, it is met by what remains known. -/
theorem IsMetBy.retain
    {retained : FieldSet}
    (within : request.fields ⊆ retained)
    (met : request.IsMetBy delivered) :
    request.IsMetBy (delivered.retain retained) := by
  cases demand : request.isTrivial with
  | true =>
      obtain rfl : request = .random := of_decide_eq_true demand
      simp [IsMetBy, metByPartitioning]
  | false =>
      refine met.of_partitioning_eq (GlobalProperties.partitioning_retain fun deciding isDeciding => ?_)
      exact SortedSet.subset_trans (met.subset_fields demand isDeciding) within

end GlobalRequest

namespace LocalProperties

variable {properties : LocalProperties} {retained : FieldSet}

theorem implies_retain (properties : LocalProperties) (retained : FieldSet) :
    properties.Implies (properties.retain retained) := by
  refine ⟨?_, ?_, FieldSets.covers_within retained properties.uniqueSets⟩
  · intro kept isKept
    obtain ⟨order, isOrder, isRetained⟩ := Option.bind_eq_some_iff.mp isKept
    exact ⟨order, isOrder, SortOrder.startsWith_of_retain? isRetained⟩
  · intro fields isGrouped
    exact .inl (Option.filter_eq_some_iff.mp isGrouped).1

theorem IsSortedBy.retain
    {order : SortOrder}
    (sorted : properties.IsSortedBy order)
    (someColumn : order.columns ≠ [])
    (within : order.fieldSet ⊆ retained) :
    (properties.retain retained).IsSortedBy order := by
  obtain ⟨delivered, isDelivered, refines⟩ := sorted
  obtain ⟨kept, isKept, refinesStill⟩ := SortOrder.exists_retain?_of_startsWith refines someColumn within
  exact ⟨kept, Option.bind_eq_some_iff.mpr ⟨delivered, isDelivered, isKept⟩, refinesStill⟩

/-- A grouping survives by the declaration, the order or the unique fields that it came from. -/
theorem IsGroupedOn.retain
    {fields : FieldSet}
    (grouped : properties.IsGroupedOn fields)
    (someField : fields.isEmpty = false)
    (within : fields ⊆ retained) :
    (properties.retain retained).IsGroupedOn fields := by
  rcases grouped with declared | byOrder | ⟨unique, isUnique, smaller⟩
  · exact .inl (Option.filter_eq_some_iff.mpr ⟨declared, decide_eq_true within⟩)
  · obtain ⟨order, isOrder, leadingFields⟩ := Option.bind_eq_some_iff.mp byOrder
    obtain ⟨leading, refines, isLength, rfl⟩ := SortOrder.leadingFields?_eq_some_iff.mp leadingFields
    have someColumn : leading.columns ≠ [] := by
      intro noColumn
      rw [SortOrder.fieldSet, SortOrder.fields, noColumn] at someField
      exact absurd someField (by decide)
    obtain ⟨kept, isKept, refinesStill⟩ := SortOrder.exists_retain?_of_startsWith refines someColumn within
    refine .inr (.inl (Option.bind_eq_some_iff.mpr ⟨kept, ?_, ?_⟩))
    · exact Option.bind_eq_some_iff.mpr ⟨order, isOrder, isKept⟩
    · exact SortOrder.leadingFields?_eq_some_iff.mpr ⟨leading, refinesStill, isLength, rfl⟩
  · refine .inr (.inr ⟨unique, ?_, smaller⟩)
    exact SortedSet.mem_filter.mpr ⟨isUnique, decide_eq_true (SortedSet.subset_trans smaller within)⟩

end LocalProperties

/-- The request names retained fields only, and neither its order nor its grouping is an empty one. -/
structure LocalRequest.ExpressibleOver (retained : FieldSet) (request : LocalRequest) : Prop where
  order : ∀ order ∈ request.order, order.columns ≠ [] ∧ order.fieldSet ⊆ retained
  grouped : ∀ fields ∈ request.grouped, fields.isEmpty = false ∧ fields ⊆ retained

theorem LocalRequest.IsMetBy.retain
    {request : LocalRequest}
    {delivered : LocalProperties}
    {retained : FieldSet}
    (expressible : request.ExpressibleOver retained)
    (met : request.IsMetBy delivered) :
    request.IsMetBy (delivered.retain retained) := by
  obtain ⟨sorted, grouped⟩ := met
  constructor
  · intro order isOrder
    obtain ⟨someColumn, within⟩ := expressible.order order isOrder
    exact (sorted order isOrder).retain someColumn within
  · intro fields isGrouped
    obtain ⟨someField, within⟩ := expressible.grouped fields isGrouped
    exact (grouped fields isGrouped).retain someField within

/--
A projection on retained fields meets no request that was not met before, and every request on these fields that
was.  Local requests are exempt from the second half where they demand an empty order or an empty grouping.
-/
theorem requests_met_by_projection :
    (∀ (delivered : GlobalProperties) (retained : FieldSet) (request : GlobalRequest),
      (request.IsMetBy (delivered.retain retained) → request.IsMetBy delivered) ∧
        (request.fields ⊆ retained → request.IsMetBy delivered →
          request.IsMetBy (delivered.retain retained))) ∧
      ∀ (delivered : LocalProperties) (retained : FieldSet) (request : LocalRequest),
        (request.IsMetBy (delivered.retain retained) → request.IsMetBy delivered) ∧
          (request.ExpressibleOver retained → request.IsMetBy delivered →
            request.IsMetBy (delivered.retain retained)) := by
  constructor
  · intro delivered retained request
    exact ⟨fun met => met.of_implies (delivered.implies_retain retained), fun within met => met.retain within⟩
  · intro delivered retained request
    have carries := (LocalProperties.implies_iff.mp (delivered.implies_retain retained)).1
    exact ⟨carries request, fun expressible met => met.retain expressible⟩

/--
Without its last column an order with a repeated field still groups by its first two fields.  Without one of
its fields, a unique set groups no more.
-/
theorem requests_met_by_projection_sorted :
    let ranged : GlobalProperties := { partitioning := .range ⟨[⟨1, .descending⟩, ⟨1, .ascending⟩]⟩ none }
    let sorted : LocalProperties :=
      { order := some ⟨[⟨1, .descending⟩, ⟨0, .ascending⟩, ⟨1, .ascending⟩, ⟨2, .ascending⟩]⟩,
        uniqueSets := .ofList [.ofList [2, 3]] }
    let retained : FieldSet := .ofList [0, 1, 3]
    ((GlobalRequest.any (.ofList [0, 1])).IsMetBy ranged ∧
        (GlobalRequest.any (.ofList [0, 1])).IsMetBy (ranged.retain retained)) ∧
      (LocalRequest.IsMetBy { order := some ⟨[⟨1, .descending⟩]⟩, grouped := some (.ofList [0, 1]) } sorted ∧
        LocalRequest.IsMetBy { order := some ⟨[⟨1, .descending⟩]⟩, grouped := some (.ofList [0, 1]) }
          (sorted.retain retained)) ∧
      (LocalRequest.groupedBy (.ofList [2, 3])).IsMetBy sorted ∧
        ¬ (LocalRequest.groupedBy (.ofList [2, 3])).IsMetBy (sorted.retain retained) := by
  intro ranged sorted retained
  obtain ⟨globally, locally⟩ := requests_met_by_projection
  have globallyMet : (GlobalRequest.any (.ofList [0, 1])).IsMetBy ranged := by decide
  have locallyMet : LocalRequest.IsMetBy
      { order := some ⟨[⟨1, .descending⟩]⟩, grouped := some (.ofList [0, 1]) } sorted := by decide
  refine ⟨⟨globallyMet, (globally _ _ _).2 (by decide) globallyMet⟩,
    ⟨locallyMet, (locally _ _ _).2 ⟨?_, ?_⟩ locallyMet⟩, by decide, by decide⟩
  · intro order isOrder
    obtain rfl := Option.some.inj isOrder
    decide
  · intro fields isGrouped
    obtain rfl := Option.some.inj isGrouped
    decide

end Dataflow
