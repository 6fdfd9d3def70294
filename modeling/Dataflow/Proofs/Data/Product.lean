import Dataflow.Proofs.Data.DataSet
import Dataflow.Proofs.Properties.Mentions
import Dataflow.Strategy.Driver

namespace Dataflow

/-!
# Products of data sets

A cartesian product replicates one input and pairs it with each partition of the other one, so a pair is in
the partition of the record that is not replicated.  Only what decides on the partition of that record
decides on the partition of the pair.
-/

namespace DataSet

variable {Value : Type} {parallelism : Nat}
variable {left right : DataSet Value parallelism} {pair : Record Value → Record Value → Record Value}

/-- The pairs of records of the same partition. -/
def product
    (left right : DataSet Value parallelism)
    (pair : Record Value → Record Value → Record Value) :
    DataSet Value parallelism where
  partition position :=
    (left.partition position).flatMap fun one => (right.partition position).map fun other => pair one other

theorem mem_product
    {position : Fin parallelism}
    {record : Record Value} :
    record ∈ (left.product right pair).partition position ↔
      ∃ one ∈ left.partition position, ∃ other ∈ right.partition position, pair one other = record := by
  simp [product]

/-- Fields that gather the records of the first input gather the pairs that keep them. -/
theorem Gathers.product_left
    {fields : FieldSet}
    (gathers : left.Gathers fields)
    (keeps : ∀ field ∈ fields, ∀ one other, pair one other field = one field) :
    (left.product right pair).Gathers fields := by
  intro first second record isRecord another isAnother agree
  obtain ⟨one, isOne, oneMate, _, rfl⟩ := mem_product.mp isRecord
  obtain ⟨other, isOther, otherMate, _, rfl⟩ := mem_product.mp isAnother
  apply gathers first second one isOne other isOther
  intro field isField
  rw [← keeps field isField one oneMate, ← keeps field isField other otherMate]
  exact agree field isField

theorem Gathers.product_right
    {fields : FieldSet}
    (gathers : right.Gathers fields)
    (keeps : ∀ field ∈ fields, ∀ one other, pair one other field = other field) :
    (left.product right pair).Gathers fields := by
  intro first second record isRecord another isAnother agree
  obtain ⟨oneMate, _, one, isOne, rfl⟩ := mem_product.mp isRecord
  obtain ⟨otherMate, _, other, isOther, rfl⟩ := mem_product.mp isAnother
  apply gathers first second one isOne other isOther
  intro field isField
  rw [← keeps field isField oneMate one, ← keeps field isField otherMate other]
  exact agree field isField

/-- What is known to decide on the partition of a record that is not copied. -/
theorem Realises.gathers
    {data : DataSet Value parallelism}
    {properties : GlobalProperties}
    (realises : data.Realises properties)
    (spread : properties.partitioning ≠ .replicated)
    {fields : FieldSet}
    (decides : properties.partitioning.fields? = some fields ∨ fields ∈ properties.uniqueSets) :
    data.Gathers fields := by
  rcases decides with isDeciding | isUnique
  · exact realises.follows.gathers isDeciding
  · exact realises.gathers_unique spread isUnique

end DataSet

namespace GlobalProperties

variable {left right : GlobalProperties}

/-- The input of a product whose records are spread over the partitions. -/
def spreadInput (left right : GlobalProperties) : GlobalProperties :=
  if left.isReplicated then right else left

/-- A pair has the values of each input in the fields that the properties of that input mention. -/
structure Keeps
    {Value : Type}
    (left right : GlobalProperties)
    (pair : Record Value → Record Value → Record Value) :
    Prop where
  left : ∀ field, left.Mentions field → ∀ one other, pair one other field = one field
  right : ∀ field, right.Mentions field → ∀ one other, pair one other field = other field

/--
The partitioning that is derived for a product is true of all products of data sets with the given
properties.  It is never replicated where it is on fields.
-/
def ProductPartitioned (Value : Type) (left right : GlobalProperties) : Prop :=
  ∀ {parallelism : Nat} (leftData rightData : DataSet Value parallelism)
    (pair : Record Value → Record Value → Record Value),
    Keeps left right pair →
    leftData.Realises left →
    rightData.Realises right →
    ∀ fields, (Driver.cartesianProduct.outputGlobal [left, right]).isPartitionedOn fields = true →
      (leftData.product rightData pair).Gathers fields

/--
The unique fields that are taken to decide on the partition, where nothing else does, are unique fields of
the input that is spread over the partitions, unless there are no such fields.
-/
def TakesFromSpread (left right : GlobalProperties) : Prop :=
  (spreadInput left right).partitioning = .random →
    ∀ unique ∈ (left.uniqueSets.union right.uniqueSets).toList.head?,
      unique.isEmpty = true ∨ unique ∈ (spreadInput left right).uniqueSets

instance (left right : GlobalProperties) : Decidable (TakesFromSpread left right) :=
  inferInstanceAs (Decidable (_ → ∀ unique ∈ (left.uniqueSets.union right.uniqueSets).toList.head?, _ ∨ _))

theorem partitioning_combine :
    (combine left right).partitioning = (spreadInput left right).partitioning := by
  unfold combine spreadInput
  split <;> rfl

/-- A product is partitioned on what decides in the input that is spread, or else on the first unique fields. -/
theorem fields?_product
    {deciding : FieldSet} :
    (Driver.cartesianProduct.outputGlobal [left, right]).partitioning.fields? = some deciding ↔
      (spreadInput left right).partitioning.fields? = some deciding ∨
        (spreadInput left right).partitioning = .random ∧
          (left.uniqueSets.union right.uniqueSets).toList.head? = some deciding := by
  have uniqueSets_eq : (combine left right).uniqueSets = left.uniqueSets.union right.uniqueSets := rfl
  simp only [Driver.outputGlobal, Driver.combineInputs, Driver.productPartitioning, isRandom,
    partitioning_combine, uniqueSets_eq, decide_eq_true_eq]
  by_cases random : (spreadInput left right).partitioning = .random
  · rw [if_pos random, random]
    cases (left.uniqueSets.union right.uniqueSets).toList with
    | nil => simp [Partitioning.fields?]
    | cons first rest => simp [Partitioning.fields?]
  · simp [random]

theorem productPartitioned_of_takesFromSpread
    {Value : Type}
    (takes : TakesFromSpread left right) :
    ProductPartitioned Value left right := by
  intro parallelism leftData rightData pair keeps leftRealises rightRealises fields partitioned
  obtain ⟨deciding, isDeciding, someField, smaller⟩ := isPartitionedOn_iff.mp partitioned
  have spread : (spreadInput left right).partitioning ≠ .replicated := by
    intro replicated
    rcases fields?_product.mp isDeciding with ofSpread | ⟨random, _⟩
    · simp [replicated, Partitioning.fields?] at ofSpread
    · simp [replicated] at random
  have decides : (spreadInput left right).partitioning.fields? = some deciding ∨
      deciding ∈ (spreadInput left right).uniqueSets := by
    rcases fields?_product.mp isDeciding with ofSpread | ⟨random, isFirst⟩
    · exact .inl ofSpread
    · rcases takes random deciding isFirst with noField | isUnique
      · simp [noField] at someField
      · exact .inr isUnique
  have mentions : ∀ field ∈ deciding, (spreadInput left right).Mentions field := by
    intro field isField
    rcases decides with isDeciding | isUnique
    · exact .inl ⟨deciding, isDeciding, isField⟩
    · exact .inr ⟨deciding, isUnique, isField⟩
  refine DataSet.Gathers.mono ?_ smaller
  by_cases leftReplicated : left.isReplicated = true
  · have isRight : spreadInput left right = right := if_pos leftReplicated
    rw [isRight] at spread decides mentions
    exact (rightRealises.gathers spread decides).product_right fun field isField =>
      keeps.right field (mentions field isField)
  · have isLeft : spreadInput left right = left := if_neg leftReplicated
    rw [isLeft] at spread decides mentions
    exact (leftRealises.gathers spread decides).product_left fun field isField =>
      keeps.left field (mentions field isField)

end GlobalProperties

namespace DataSet

variable {Value : Type} {properties : GlobalProperties}

/-- Two partitions, with one record in each that has the same value in every field. -/
def twoRecords (first second : Value) : DataSet Value 2 where
  partition position := [fun _ => if position = 0 then first else second]

/-- Two copies of one record are a replicated data set, in which any fields are unique. -/
theorem realises_twoRecords_replicated
    (replicated : properties.partitioning = .replicated)
    (value : Value) :
    (twoRecords value value).Realises properties where
  follows := by
    rw [replicated]
    exact ⟨[fun _ => value], fun position => by simp [twoRecords]⟩
  unique fields _ := by
    simp [replicated, logicalRecords, twoRecords, List.finRange_succ]

/-- Two records that differ in every field have all unique fields, apart from the empty combination. -/
theorem realises_twoRecords_random
    (random : properties.partitioning = .random)
    (someField : ∀ unique ∈ properties.uniqueSets, unique.isEmpty = false)
    {first second : Value}
    (different : first ≠ second) :
    (twoRecords first second).Realises properties where
  follows := by
    rw [random]
    trivial
  unique fields isUnique := by
    have notAgree : ¬ Record.AgreeOn fields (fun _ => first) fun _ => second := by
      intro agree
      obtain ⟨field, isField⟩ : ∃ field, field ∈ fields.toList :=
        List.exists_mem_of_ne_nil _ (by simpa [SortedSet.isEmpty] using someField fields isUnique)
      exact different (agree field isField)
    simpa [random, logicalRecords, twoRecords, List.finRange_succ] using notAgree

/-- A copied record is paired in both partitions, so its own fields do not gather the pairs. -/
theorem not_gathers_product_left
    {fields : FieldSet}
    {pair : Record Value → Record Value → Record Value}
    (keeps : ∀ field ∈ fields, ∀ one other, pair one other field = one field)
    (copied first second : Value) :
    ¬ ((twoRecords copied copied).product (twoRecords first second) pair).Gathers fields := by
  intro gathers
  have agree : Record.AgreeOn fields (pair (fun _ => copied) fun _ => first)
      (pair (fun _ => copied) fun _ => second) := by
    intro field isField
    rw [keeps field isField, keeps field isField]
  have samePosition : (0 : Fin 2) = 1 := gathers 0 1 _ (mem_product.mpr ⟨_, .head _, _, .head _, rfl⟩)
    _ (mem_product.mpr ⟨_, .head _, _, .head _, rfl⟩) agree
  exact absurd samePosition (by decide)

theorem not_gathers_product_right
    {fields : FieldSet}
    {pair : Record Value → Record Value → Record Value}
    (keeps : ∀ field ∈ fields, ∀ one other, pair one other field = other field)
    (first second copied : Value) :
    ¬ ((twoRecords first second).product (twoRecords copied copied) pair).Gathers fields := by
  intro gathers
  have agree : Record.AgreeOn fields (pair (fun _ => first) fun _ => copied)
      (pair (fun _ => second) fun _ => copied) := by
    intro field isField
    rw [keeps field isField, keeps field isField]
  have samePosition : (0 : Fin 2) = 1 := gathers 0 1 _ (mem_product.mpr ⟨_, .head _, _, .head _, rfl⟩)
    _ (mem_product.mpr ⟨_, .head _, _, .head _, rfl⟩) agree
  exact absurd samePosition (by decide)

end DataSet

namespace GlobalProperties

variable {left right : GlobalProperties}

/-- The empty combination comes first, so if the first combination has a field then so have all. -/
theorem isEmpty_of_mem_sets
    {sets : FieldSets}
    {first unique : FieldSet}
    (isFirst : sets.toList.head? = some first)
    (someField : first.isEmpty = false)
    (isUnique : unique ∈ sets) :
    unique.isEmpty = false := by
  obtain ⟨rest, toList_eq⟩ := List.head?_eq_some_iff.mp isFirst
  have increasing := sets.increasing
  rw [toList_eq, List.pairwise_cons] at increasing
  rw [SortedSet.mem_def, toList_eq] at isUnique
  rcases List.mem_cons.mp isUnique with rfl | isLater
  · exact someField
  · have before : first.toList < unique.toList := increasing.1 unique isLater
    have someLater : unique.toList ≠ [] := by
      intro noField
      rw [noField] at before
      exact absurd before (List.not_lt_nil _)
    simpa [SortedSet.isEmpty] using someLater

open Classical in
/-- Inputs that mention different fields can be paired so that both keep theirs. -/
theorem exists_keeps
    (Value : Type)
    (apart : ∀ field, left.Mentions field → ¬ right.Mentions field) :
    ∃ pair : Record Value → Record Value → Record Value, Keeps left right pair := by
  refine ⟨fun one other field => if left.Mentions field then one field else other field, ?_, ?_⟩
  · intro field isMentioned one other
    exact if_pos isMentioned
  · intro field isMentioned one other
    exact if_neg fun ofLeft => apart field ofLeft isMentioned

/--
Unique fields of the replicated input do not decide: two records of the other input, one in each partition,
are paired with the same record.
-/
theorem takesFromSpread_of_productPartitioned
    {Value : Type}
    {one other : Value}
    (different : one ≠ other)
    (replicated : left.partitioning = .replicated ∨ right.partitioning = .replicated)
    (apart : ∀ field, left.Mentions field → ¬ right.Mentions field)
    (partitioned : ProductPartitioned Value left right) :
    TakesFromSpread left right := by
  intro random unique isFirst
  by_cases someField : unique.isEmpty = false
  case neg => exact .inl (by simpa using someField)
  right
  have isPartitioned : (Driver.cartesianProduct.outputGlobal [left, right]).isPartitionedOn unique = true :=
    isPartitionedOn_iff.mpr
      ⟨unique, fields?_product.mpr (.inr ⟨random, isFirst⟩), someField, fun _ isField => isField⟩
  have ofEither : unique ∈ left.uniqueSets ∨ unique ∈ right.uniqueSets :=
    SortedSet.mem_union.mp (List.mem_of_head? isFirst)
  have someFields : ∀ sets, sets ∈ left.uniqueSets ∨ sets ∈ right.uniqueSets → sets.isEmpty = false :=
    fun sets ofEither => isEmpty_of_mem_sets isFirst someField (SortedSet.mem_union.mpr ofEither)
  obtain ⟨pair, keeps⟩ := exists_keeps Value apart
  -- The data sets are two copies of one record on the replicated side, two different records on the other.
  by_cases leftReplicated : left.partitioning = .replicated
  · have isRight : spreadInput left right = right := if_pos (isReplicated_iff.mpr leftReplicated)
    rw [isRight] at random ⊢
    refine ofEither.resolve_left fun ofLeft => ?_
    have gathers := partitioned _ _ pair keeps (DataSet.realises_twoRecords_replicated leftReplicated one)
      (DataSet.realises_twoRecords_random random (fun sets isUnique => someFields sets (.inr isUnique))
        different) unique isPartitioned
    exact DataSet.not_gathers_product_left
      (fun field isField => keeps.left field (.inr ⟨unique, ofLeft, isField⟩)) one one other gathers
  · have rightReplicated := replicated.resolve_left leftReplicated
    have isLeft : spreadInput left right = left := if_neg fun also => leftReplicated (isReplicated_iff.mp also)
    rw [isLeft] at random ⊢
    refine ofEither.resolve_right fun ofRight => ?_
    have gathers := partitioned _ _ pair keeps
      (DataSet.realises_twoRecords_random random (fun sets isUnique => someFields sets (.inl isUnique))
        different) (DataSet.realises_twoRecords_replicated rightReplicated one) unique isPartitioned
    exact DataSet.not_gathers_product_right
      (fun field isField => keeps.right field (.inr ⟨unique, ofRight, isField⟩)) one other one gathers

/-- One of the inputs that a product accepts is replicated. -/
theorem replicated_of_mem_requirements
    {row : List InputRequirement}
    (isRow : row ∈ Driver.cartesianProduct.requirements)
    (met : ∀ input ∈ row.zip [left, right], input.1.globally.IsMetBy input.2) :
    left.partitioning = .replicated ∨ right.partitioning = .replicated := by
  simp only [Driver.requirements, Driver.globalRows, Driver.localRow, List.map_cons, List.map_nil,
    List.zipWith_cons_cons, List.zipWith_nil_left, List.mem_cons, List.not_mem_nil, or_false] at isRow
  rcases isRow with rfl | rfl
  · have isMet := met (⟨.replicated, .none⟩, right) (by simp)
    exact .inr (GlobalRequest.isMetBy_replicated.mp isMet)
  · have isMet := met (⟨.replicated, .none⟩, left) (by simp)
    exact .inl (GlobalRequest.isMetBy_replicated.mp isMet)

/--
The partitioning that is derived for a product is true of it exactly when the unique fields from which it may
be derived are those of the input that is spread over the partitions.
-/
theorem productPartitioned_iff
    {row : List InputRequirement}
    (isRow : row ∈ Driver.cartesianProduct.requirements)
    (met : ∀ input ∈ row.zip [left, right], input.1.globally.IsMetBy input.2)
    (apart : ∀ field, left.Mentions field → ¬ right.Mentions field)
    {Value : Type}
    {one other : Value}
    (different : one ≠ other) :
    ProductPartitioned Value left right ↔ TakesFromSpread left right :=
  ⟨takesFromSpread_of_productPartitioned different (replicated_of_mem_requirements isRow met) apart,
    productPartitioned_of_takesFromSpread⟩

/-- Nothing decides on the partition of a record, but no two records agree on the fields. -/
def distinctOn (fields : FieldList) : GlobalProperties := { uniqueSets := .ofList [fields.toSet] }

/-- Every partition has all records, no two of which agree on the fields. -/
def copiesDistinctOn (fields : FieldList) : GlobalProperties :=
  { partitioning := .replicated, uniqueSets := .ofList [fields.toSet] }

@[simp]
theorem mentions_distinctOn
    {fields : FieldList}
    {field : Field} :
    (distinctOn fields).Mentions field ↔ field ∈ fields := by
  simp [Mentions, distinctOn, Partitioning.fields?]

@[simp]
theorem mentions_copiesDistinctOn
    {fields : FieldList}
    {field : Field} :
    (copiesDistinctOn fields).Mentions field ↔ field ∈ fields := by
  simp [Mentions, copiesDistinctOn, Partitioning.fields?]

/-- Fields that are unique in the input that is spread come before those of the replicated input here. -/
theorem productPartitioned_iff_distinctOn :
    TakesFromSpread (distinctOn [2, 1]) (copiesDistinctOn [3]) ∧
      ProductPartitioned Nat (distinctOn [2, 1]) (copiesDistinctOn [3]) := by
  have isRow : [⟨.random, .none⟩, ⟨.replicated, .none⟩] ∈ Driver.cartesianProduct.requirements := .head _
  have apart : ∀ field, (distinctOn [2, 1]).Mentions field → ¬ (copiesDistinctOn [3]).Mentions field := by
    simp
  have takes : TakesFromSpread (distinctOn [2, 1]) (copiesDistinctOn [3]) := by decide
  exact ⟨takes, (productPartitioned_iff isRow (by decide) apart Nat.zero_ne_one).mpr takes⟩

/-- A pair has field 0 of its first record, and all other fields of its second one. -/
def pairOnFirst (one other : Record Nat) : Record Nat :=
  fun field => if field = 0 then one field else other field

/--
Records that agree on unique fields of the replicated input are in two partitions of the product, although the
product is said to be partitioned on these fields.
-/
theorem not_gathers_product_copiesDistinctOn :
    (∀ input ∈ [((⟨.replicated, .none⟩ : InputRequirement), copiesDistinctOn [0]), (⟨.random, .none⟩, random)],
        input.1.globally.IsMetBy input.2) ∧
      Driver.cartesianProduct.outputGlobal [copiesDistinctOn [0], random] = { partitioning := .any [0] } ∧
      (DataSet.twoRecords 0 0).Realises (copiesDistinctOn [0]) ∧
      (DataSet.twoRecords 0 1).Realises random ∧
      Keeps (copiesDistinctOn [0]) random pairOnFirst ∧
      ¬ ((DataSet.twoRecords 0 0).product (DataSet.twoRecords 0 1) pairOnFirst).Gathers (.ofList [0]) := by
  have keeps : Keeps (copiesDistinctOn [0]) random pairOnFirst := by
    constructor
    · intro field isMentioned one other
      exact if_pos (by simpa using isMentioned)
    · intro field isMentioned
      simp [random, Mentions, Partitioning.fields?] at isMentioned
  refine ⟨by decide, by decide, DataSet.realises_twoRecords_replicated rfl 0,
    DataSet.realises_twoRecords_random rfl (by simp [random]) Nat.zero_ne_one, keeps, ?_⟩
  exact DataSet.not_gathers_product_left (fun field isField => keeps.left field (by simpa using isField)) 0 0 1

end GlobalProperties

end Dataflow
