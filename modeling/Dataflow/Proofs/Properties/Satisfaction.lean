import Dataflow.Proofs.Properties.Strength

namespace Dataflow

/-!
# Strength and requests

Properties that are at least as strong as others meet every request that those meet.  Of local properties
this is all that strength says, apart from the unique fields that they carry on.
-/

theorem FieldList.isEmpty_toSet_of_ne_nil
    {fields : FieldList}
    (someField : fields ≠ []) :
    fields.toSet.isEmpty = false := by
  obtain ⟨field, isField⟩ := List.exists_mem_of_ne_nil fields someField
  have inSet : field ∈ fields.toSet.toList := FieldList.mem_toSet.mpr isField
  simp [SortedSet.isEmpty, List.ne_nil_of_mem inSet]

theorem FieldList.Narrows.toSet_subset
    {first second : FieldList}
    (narrows : first.Narrows second)
    (someField : second.toSet.isEmpty = false) :
    first.toSet.isEmpty = false ∧ first.toSet ⊆ second.toSet := by
  rcases narrows with ⟨someFirst, smaller⟩ | rfl
  · exact ⟨isEmpty_toSet_of_ne_nil someFirst, smaller⟩
  · exact ⟨someField, fun _ isField => isField⟩

theorem SortOrder.isEmpty_fieldSet_of_ne_nil
    {order : SortOrder}
    (someColumn : order.columns ≠ []) :
    order.fieldSet.isEmpty = false :=
  FieldList.isEmpty_toSet_of_ne_nil (by simpa [SortOrder.fields] using someColumn)

/--
Where some fields decide on the partition, some of them do so under every stronger partitioning that keeps
records apart.
-/
theorem Partitioning.Implies.exists_fields
    {first second : Partitioning}
    (implies : first.Implies second)
    (spread : first ≠ .replicated)
    {deciding : FieldSet}
    (isDeciding : second.fields? = some deciding)
    (someField : deciding.isEmpty = false) :
    ∃ stronger, first.fields? = some stronger ∧ stronger.isEmpty = false ∧ stronger ⊆ deciding := by
  cases second with
  | random => exact absurd isDeciding (by simp [fields?])
  | replicated => exact absurd isDeciding (by simp [fields?])
  | range order histogram =>
      rcases eq_of_implies_range implies with same | rfl
      · exact absurd same spread
      · exact ⟨deciding, isDeciding, someField, fun _ isField => isField⟩
  | hash fields =>
      obtain rfl : fields.toSet = deciding := Option.some.inj isDeciding
      rcases hash_of_implies_hash implies with same | ⟨stronger, rfl, narrows⟩
      · exact absurd same spread
      · exact ⟨stronger.toSet, rfl, narrows.toSet_subset someField⟩
  | any fields =>
      obtain rfl : fields.toSet = deciding := Option.some.inj isDeciding
      cases first with
      | random => exact absurd implies (by simp [Implies])
      | replicated => exact absurd rfl spread
      | hash stronger => exact ⟨stronger.toSet, rfl, FieldList.Narrows.toSet_subset implies someField⟩
      | any stronger => exact ⟨stronger.toSet, rfl, FieldList.Narrows.toSet_subset implies someField⟩
      | range order histogram =>
          obtain ⟨someColumn, smaller⟩ := implies
          exact ⟨order.fieldSet, rfl, SortOrder.isEmpty_fieldSet_of_ne_nil someColumn, smaller⟩

namespace GlobalProperties

/-- Records that agree on the fields meet when these include all fields that decide, and some do. -/
theorem isPartitionedOn_iff
    {properties : GlobalProperties}
    {fields : FieldSet} :
    properties.isPartitionedOn fields = true ↔
      ∃ deciding, properties.partitioning.fields? = some deciding ∧
        deciding.isEmpty = false ∧ deciding ⊆ fields := by
  unfold isPartitionedOn
  cases properties.partitioning.fields? <;> simp

theorem isReplicated_iff
    {properties : GlobalProperties} :
    properties.isReplicated = true ↔ properties.partitioning = .replicated := by
  simp [isReplicated]

theorem isPartitionedOn_of_implies
    {first second : GlobalProperties}
    (implies : first.Implies second)
    (spread : first.partitioning ≠ .replicated)
    {fields : FieldSet}
    (partitioned : second.isPartitionedOn fields = true) :
    first.isPartitionedOn fields = true := by
  obtain ⟨deciding, isDeciding, someField, smaller⟩ := isPartitionedOn_iff.mp partitioned
  obtain ⟨stronger, isStronger, someStronger, smallerStill⟩ :=
    implies.1.exists_fields spread isDeciding someField
  exact isPartitionedOn_iff.mpr
    ⟨stronger, isStronger, someStronger, SortedSet.subset_trans smallerStill smaller⟩

end GlobalProperties

@[simp]
theorem GlobalRequest.isMetBy_replicated
    {delivered : GlobalProperties} :
    GlobalRequest.replicated.IsMetBy delivered ↔ delivered.partitioning = .replicated := by
  simp [IsMetBy, metByPartitioning, GlobalProperties.isReplicated_iff]

/-- Whether a request is met depends on the partitioning alone. -/
theorem GlobalRequest.IsMetBy.of_partitioning_eq
    {first second : GlobalProperties}
    (samePartitioning : first.partitioning = second.partitioning)
    {request : GlobalRequest}
    (met : request.IsMetBy second) :
    request.IsMetBy first := by
  cases request <;>
    simpa only [IsMetBy, metByPartitioning, GlobalProperties.isReplicated, GlobalProperties.isPartitionedOn,
      samePartitioning] using met

theorem GlobalRequest.IsMetBy.of_implies
    {first second : GlobalProperties}
    (implies : first.Implies second)
    {request : GlobalRequest}
    (met : request.IsMetBy second) :
    request.IsMetBy first := by
  simp only [IsMetBy, Bool.or_eq_true, GlobalProperties.isReplicated_iff] at met ⊢
  by_cases replicated : first.partitioning = .replicated
  · exact .inl replicated
  right
  rcases met with alsoReplicated | met
  · -- Only full replication is as strong as full replication.
    have same := implies.1
    rw [alsoReplicated] at same
    exact absurd (Partitioning.eq_of_implies_replicated same) replicated
  cases request with
  | random => rfl
  | replicated => exact met
  | any fields => exact GlobalProperties.isPartitionedOn_of_implies implies replicated met
  | hash fields =>
      have partitioned : second.isPartitionedOn fields = true → first.isPartitionedOn fields = true :=
        GlobalProperties.isPartitionedOn_of_implies implies replicated
      simp only [metByPartitioning] at met ⊢
      split at met
      · rename_i weaker isHash
        have ofHash := implies.1
        rw [isHash] at ofHash
        rcases Partitioning.hash_of_implies_hash ofHash with same | ⟨stronger, same, _⟩
        · exact absurd same replicated
        · simpa [same] using partitioned met
      · exact absurd met Bool.false_ne_true
  | range order histogram =>
      simp only [metByPartitioning] at met ⊢
      split at met
      · rename_i isRange
        have ofRange := implies.1
        rw [isRange] at ofRange
        rcases Partitioning.eq_of_implies_range ofRange with same | same
        · exact absurd same replicated
        · simpa [same] using met
      · exact absurd met Bool.false_ne_true

namespace LocalRequest

@[simp]
theorem isMetBy_sortedBy
    {order : SortOrder}
    {delivered : LocalProperties} :
    (sortedBy order).IsMetBy delivered ↔ delivered.IsSortedBy order := by
  simp [IsMetBy, sortedBy]

@[simp]
theorem isMetBy_groupedBy
    {fields : FieldSet}
    {delivered : LocalProperties} :
    (groupedBy fields).IsMetBy delivered ↔ delivered.IsGroupedOn fields := by
  simp [IsMetBy, groupedBy]

end LocalRequest

/-- Strength of local properties is to meet all requests that the others meet, and to keep unique fields. -/
theorem LocalProperties.implies_iff
    {first second : LocalProperties} :
    first.Implies second ↔
      (∀ request : LocalRequest, request.IsMetBy second → request.IsMetBy first) ∧
        first.uniqueSets.Covers second.uniqueSets := by
  constructor
  · intro implies
    refine ⟨?_, implies.2.2⟩
    rintro request ⟨sorted, grouped⟩
    exact ⟨fun order isOrder => (sorted order isOrder).of_implies implies,
      fun fields isGrouped => (grouped fields isGrouped).of_implies implies⟩
  · rintro ⟨carries, covers⟩
    refine ⟨?_, ?_, covers⟩
    · intro order isOrder
      have sorted : second.IsSortedBy order := ⟨order, isOrder, List.prefix_refl _⟩
      exact LocalRequest.isMetBy_sortedBy.mp (carries _ (LocalRequest.isMetBy_sortedBy.mpr sorted))
    · intro fields isGrouped
      have grouped : second.IsGroupedOn fields := .inl isGrouped
      exact LocalRequest.isMetBy_groupedBy.mp (carries _ (LocalRequest.isMetBy_groupedBy.mpr grouped))

/-- Every request that properties meet is met by all properties that are at least as strong. -/
theorem requests_met_by_stronger :
    (∀ first second : GlobalProperties, first.Implies second →
        ∀ request : GlobalRequest, request.IsMetBy second → request.IsMetBy first) ∧
      ∀ first second : LocalProperties, first.Implies second →
        ∀ request : LocalRequest, request.IsMetBy second → request.IsMetBy first := by
  constructor
  · intro first second implies request met
    exact met.of_implies implies
  · intro first second implies
    exact (LocalProperties.implies_iff.mp implies).1

/--
A hash partitioning on a repeated field is stronger than one on two fields, and an order that names a field
twice still groups records by it.
-/
theorem requests_met_by_stronger_repeated :
    (GlobalProperties.Implies { partitioning := .hash [1, 1] } { partitioning := .any [2, 1] } ∧
        (GlobalRequest.any (.ofList [1, 2])).IsMetBy { partitioning := .hash [1, 1] }) ∧
      LocalProperties.Implies { order := some (.ascending [1, 1, 2]) }
          { order := some (.ascending [1, 1]), grouped := some .empty } ∧
        LocalRequest.IsMetBy { order := some (.ascending [1, 1]), grouped := some (.ofList [1]) }
          { order := some (.ascending [1, 1, 2]) } := by
  have globally : GlobalProperties.Implies { partitioning := .hash [1, 1] }
      { partitioning := .any [2, 1] } := by decide
  have locally : LocalProperties.Implies { order := some (.ascending [1, 1, 2]) }
      { order := some (.ascending [1, 1]), grouped := some .empty } := by decide
  exact ⟨⟨globally, requests_met_by_stronger.1 _ _ globally _ (by decide)⟩,
    locally, requests_met_by_stronger.2 _ _ locally _ (by decide)⟩

end Dataflow
