import Dataflow.Properties.Request

namespace Dataflow

/-!
# Strength of properties

Being at least as strong is a preorder on partitionings, on global and on local properties, and on
collections of unique field combinations.
-/

theorem SortedSet.subset_trans
    {Element : Type}
    [LT Element]
    {first second third : SortedSet Element}
    (before : first ⊆ second)
    (after : second ⊆ third) :
    first ⊆ third :=
  fun element member => after element (before element member)

namespace FieldSets

theorem Covers.refl (sets : FieldSets) : sets.Covers sets :=
  fun fields member => ⟨fields, member, fun _ isField => isField⟩

theorem Covers.trans
    {first second third : FieldSets}
    (before : first.Covers second)
    (after : second.Covers third) :
    first.Covers third := by
  intro fields member
  obtain ⟨middle, inSecond, middleSmaller⟩ := after fields member
  obtain ⟨covering, inFirst, smaller⟩ := before middle inSecond
  exact ⟨covering, inFirst, SortedSet.subset_trans smaller middleSmaller⟩

end FieldSets

namespace FieldList

/-- Partitioning on the first fields is at least as strong as partitioning on the second ones. -/
def Narrows (first second : FieldList) : Prop :=
  first ≠ [] ∧ first.toSet ⊆ second.toSet ∨ first = second

theorem Narrows.trans
    {first second third : FieldList}
    (before : first.Narrows second)
    (after : second.Narrows third) :
    first.Narrows third := by
  rcases before with ⟨someField, smaller⟩ | rfl
  · rcases after with ⟨_, smallerStill⟩ | rfl
    · exact .inl ⟨someField, SortedSet.subset_trans smaller smallerStill⟩
    · exact .inl ⟨someField, smaller⟩
  · exact after

end FieldList

namespace Partitioning

theorem Implies.refl (partitioning : Partitioning) : partitioning.Implies partitioning := by
  cases partitioning <;> simp [Implies]

theorem eq_of_implies_replicated
    {partitioning : Partitioning}
    (implies : partitioning.Implies .replicated) :
    partitioning = .replicated := by
  cases partitioning <;> simp_all [Implies]

/-- Only the same range partitioning and full replication imply a range partitioning. -/
theorem eq_of_implies_range
    {partitioning : Partitioning}
    {order : SortOrder}
    {histogram : Option Histogram}
    (implies : partitioning.Implies (.range order histogram)) :
    partitioning = .replicated ∨ partitioning = .range order histogram := by
  cases partitioning <;> simp_all [Implies]

/-- Only hash partitioning and full replication imply a hash partitioning. -/
theorem hash_of_implies_hash
    {partitioning : Partitioning}
    {fields : FieldList}
    (implies : partitioning.Implies (.hash fields)) :
    partitioning = .replicated ∨ ∃ stronger, partitioning = .hash stronger ∧ stronger.Narrows fields := by
  cases partitioning <;> simp_all [Implies, FieldList.Narrows]

theorem eq_random_of_random_implies
    {partitioning : Partitioning}
    (implies : Implies .random partitioning) :
    partitioning = .random := by
  cases partitioning <;> simp_all [Implies]

theorem Implies.trans
    {first second third : Partitioning}
    (before : first.Implies second)
    (after : second.Implies third) :
    first.Implies third := by
  cases second with
  | random =>
      rw [eq_random_of_random_implies after]
      cases first <;> simp [Implies]
  | replicated =>
      rw [eq_of_implies_replicated before]
      cases third <;> simp [Implies]
  | range order histogram =>
      rcases eq_of_implies_range before with same | same
      · rw [same]
        cases third <;> simp [Implies]
      · exact same ▸ after
  | hash fields =>
      rcases hash_of_implies_hash before with same | ⟨stronger, same, narrows⟩
      · rw [same]
        cases third <;> simp [Implies]
      · subst same
        cases third with
        | random => exact trivial
        | hash weaker => exact narrows.trans after
        | any weaker => exact narrows.trans after
        | range order histogram => exact absurd after (by simp [Implies])
        | replicated => exact absurd after (by simp [Implies])
  | any fields =>
      cases third with
      | random => cases first <;> simp [Implies]
      | hash weaker => exact absurd after (by simp [Implies])
      | range order histogram => exact absurd after (by simp [Implies])
      | replicated => exact absurd after (by simp [Implies])
      | any weaker =>
          cases first with
          | random => exact absurd before (by simp [Implies])
          | replicated => exact trivial
          | hash stronger => exact FieldList.Narrows.trans before after
          | any stronger => exact FieldList.Narrows.trans before after
          | range order histogram =>
              obtain ⟨someColumn, smaller⟩ := before
              refine ⟨someColumn, ?_⟩
              rcases after with ⟨_, smallerStill⟩ | rfl
              · exact SortedSet.subset_trans smaller smallerStill
              · exact smaller

end Partitioning

namespace GlobalProperties

theorem Implies.refl (properties : GlobalProperties) : properties.Implies properties :=
  ⟨.refl _, .refl _⟩

theorem Implies.trans
    {first second third : GlobalProperties}
    (before : first.Implies second)
    (after : second.Implies third) :
    first.Implies third :=
  ⟨before.1.trans after.1, before.2.trans after.2⟩

end GlobalProperties

namespace SortOrder

theorem StartsWith.trans
    {first second third : SortOrder}
    (before : first.StartsWith second)
    (after : second.StartsWith third) :
    first.StartsWith third :=
  List.IsPrefix.trans after before

/-- The leading fields are those of a leading order with that many columns. -/
theorem leadingFields?_eq_some_iff
    {order : SortOrder}
    {count : Nat}
    {fields : FieldSet} :
    order.leadingFields? count = some fields ↔
      ∃ leading : SortOrder, order.StartsWith leading ∧ leading.length = count ∧ leading.fieldSet = fields := by
  unfold leadingFields?
  constructor
  · intro leadingFields
    split at leadingFields
    · rename_i enough
      refine ⟨⟨order.columns.take count⟩, List.take_prefix .., List.length_take_of_le enough, ?_⟩
      rw [← Option.some.inj leadingFields, SortOrder.fieldSet, SortOrder.fields, SortOrder.fields, List.map_take]
    · exact absurd leadingFields (by simp)
  · rintro ⟨leading, ⟨further, columns_eq⟩, rfl, rfl⟩
    have enough : leading.length ≤ order.length := by
      simp [SortOrder.length, ← columns_eq]
    have sameFields : order.fields.take leading.length = leading.fields := by
      simp [SortOrder.fields, SortOrder.length, ← columns_eq]
    rw [if_pos enough, sameFields, SortOrder.fieldSet]

/-- An order that refines another one has the same leading fields as that one. -/
theorem leadingFields?_of_startsWith
    {order leading : SortOrder}
    (refines : order.StartsWith leading)
    {count : Nat}
    {fields : FieldSet}
    (leadingFields : leading.leadingFields? count = some fields) :
    order.leadingFields? count = some fields := by
  obtain ⟨shorter, refinesToo, isLength, areFields⟩ := leadingFields?_eq_some_iff.mp leadingFields
  exact leadingFields?_eq_some_iff.mpr ⟨shorter, refines.trans refinesToo, isLength, areFields⟩

end SortOrder

namespace LocalProperties

theorem IsGroupedOn.of_implies
    {first second : LocalProperties}
    (implies : first.Implies second)
    {fields : FieldSet}
    (grouped : second.IsGroupedOn fields) :
    first.IsGroupedOn fields := by
  obtain ⟨sorted, groupedToo, covers⟩ := implies
  rcases grouped with declared | leading | ⟨unique, isUnique, smaller⟩
  · exact groupedToo fields declared
  · obtain ⟨order, isOrder, leadingFields⟩ := Option.bind_eq_some_iff.mp leading
    obtain ⟨refined, isRefined, refines⟩ := sorted order isOrder
    refine .inr (.inl ?_)
    rw [Option.bind_eq_some_iff]
    exact ⟨refined, isRefined, SortOrder.leadingFields?_of_startsWith refines leadingFields⟩
  · obtain ⟨covering, isCovering, smallerStill⟩ := covers unique isUnique
    exact .inr (.inr ⟨covering, isCovering, SortedSet.subset_trans smallerStill smaller⟩)

theorem IsSortedBy.of_implies
    {first second : LocalProperties}
    (implies : first.Implies second)
    {order : SortOrder}
    (sorted : second.IsSortedBy order) :
    first.IsSortedBy order := by
  obtain ⟨delivered, isDelivered, refines⟩ := sorted
  obtain ⟨refined, isRefined, refinesToo⟩ := implies.1 delivered isDelivered
  exact ⟨refined, isRefined, refinesToo.trans refines⟩

theorem Implies.refl (properties : LocalProperties) : properties.Implies properties :=
  ⟨fun order isOrder => ⟨order, isOrder, List.prefix_refl _⟩, fun _ isGrouped => .inl isGrouped, .refl _⟩

theorem Implies.trans
    {first second third : LocalProperties}
    (before : first.Implies second)
    (after : second.Implies third) :
    first.Implies third :=
  ⟨fun order isOrder => (after.1 order isOrder).of_implies before,
    fun fields isGrouped => (after.2.1 fields isGrouped).of_implies before,
    before.2.2.trans after.2.2⟩

end LocalProperties

/-- Being at least as strong is a preorder on global properties and on local ones. -/
theorem strength_preorder :
    ((∀ properties : GlobalProperties, properties.Implies properties) ∧
        ∀ first second third : GlobalProperties,
          first.Implies second → second.Implies third → first.Implies third) ∧
      (∀ properties : LocalProperties, properties.Implies properties) ∧
        ∀ first second third : LocalProperties,
          first.Implies second → second.Implies third → first.Implies third :=
  ⟨⟨GlobalProperties.Implies.refl, fun _ _ _ => GlobalProperties.Implies.trans⟩,
    LocalProperties.Implies.refl, fun _ _ _ => LocalProperties.Implies.trans⟩

/--
A range partitioning is stronger than an open one that names its field twice.  Of the groupings, one follows
from a unique field and the other one from an order.
-/
theorem strength_preorder_inherited :
    let ranged : GlobalProperties := { partitioning := .range (.ascending [1]) none }
    let repeated : GlobalProperties := { partitioning := .any [1, 1] }
    let loose : GlobalProperties := { partitioning := .any [2, 1] }
    let unique : LocalProperties := { order := some (.ascending [1, 0, 2]), uniqueSets := .ofList [.ofList [0]] }
    let sorted : LocalProperties := { order := some (.ascending [1, 0]), grouped := some (.ofList [0, 3]) }
    let grouped : LocalProperties := { order := some (.ascending []), grouped := some (.ofList [0, 1]) }
    ranged.Implies repeated ∧ repeated.Implies loose ∧ ranged.Implies loose ∧
      unique.Implies sorted ∧ sorted.Implies grouped ∧ unique.Implies grouped := by
  intro ranged repeated loose unique sorted grouped
  have globally : ranged.Implies repeated ∧ repeated.Implies loose := by decide
  have locally : unique.Implies sorted ∧ sorted.Implies grouped := by decide
  obtain ⟨⟨_, transGlobal⟩, _, transLocal⟩ := strength_preorder
  exact ⟨globally.1, globally.2, transGlobal _ _ _ globally.1 globally.2,
    locally.1, locally.2, transLocal _ _ _ locally.1 locally.2⟩

end Dataflow
