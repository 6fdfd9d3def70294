import Dataflow.Properties.Global

namespace Dataflow

/-!
# Data sets

What partitionings and unique fields say about data.  A data set is spread over partitions, each of which
holds a list of records; a replicated one holds the same list in every partition.
-/

/-- A record gives a value to every field. -/
abbrev Record (Value : Type) := Field → Value

namespace Record

variable {Value : Type}

/-- Two records have the same values in all given fields. -/
def AgreeOn (fields : FieldSet) (first second : Record Value) : Prop :=
  ∀ field ∈ fields, first field = second field

theorem AgreeOn.symm
    {fields : FieldSet}
    {first second : Record Value}
    (agree : AgreeOn fields first second) :
    AgreeOn fields second first :=
  fun field isField => (agree field isField).symm

theorem AgreeOn.trans
    {fields : FieldSet}
    {first second third : Record Value}
    (before : AgreeOn fields first second)
    (after : AgreeOn fields second third) :
    AgreeOn fields first third :=
  fun field isField => (before field isField).trans (after field isField)

theorem AgreeOn.mono
    {fewer fields : FieldSet}
    {first second : Record Value}
    (agree : AgreeOn fields first second)
    (smaller : fewer ⊆ fields) :
    AgreeOn fewer first second :=
  fun field isField => agree field (smaller field isField)

theorem AgreeOn.map_eq
    {fields : FieldList}
    {first second : Record Value}
    (agree : AgreeOn fields.toSet first second) :
    fields.map first = fields.map second :=
  List.map_congr_left fun field isField => agree field (FieldList.mem_toSet.mpr isField)

end Record

/-- The records in each of a number of partitions. -/
structure DataSet (Value : Type) (parallelism : Nat) where
  partition : Fin parallelism → List (Record Value)

namespace DataSet

variable {Value : Type} {parallelism : Nat}

/-- The values of a record in the given fields, in list order, choose its partition. -/
def PlacedBy
    (data : DataSet Value parallelism)
    (choose : List Value → Fin parallelism)
    (fields : FieldList) :
    Prop :=
  ∀ position, ∀ record ∈ data.partition position, choose (fields.map record) = position

/-- Every partition holds the same full list. -/
def IsReplicated (data : DataSet Value parallelism) : Prop :=
  ∃ full, ∀ position, data.partition position = full

/-- Records that agree on the fields are in the same partition. -/
def Gathers (data : DataSet Value parallelism) (fields : FieldSet) : Prop :=
  ∀ first second, ∀ one ∈ data.partition first, ∀ other ∈ data.partition second,
    Record.AgreeOn fields one other → first = second

theorem Gathers.mono
    {data : DataSet Value parallelism}
    {fewer fields : FieldSet}
    (gathers : data.Gathers fewer)
    (smaller : fewer ⊆ fields) :
    data.Gathers fields :=
  fun first second one isOne other isOther agree =>
    gathers first second one isOne other isOther (agree.mono smaller)

theorem PlacedBy.gathers
    {data : DataSet Value parallelism}
    {choose : List Value → Fin parallelism}
    {fields : FieldList}
    (placed : data.PlacedBy choose fields) :
    data.Gathers fields.toSet := by
  intro first second one isOne other isOther agree
  calc
    first = choose (fields.map one) := (placed first one isOne).symm
    _ = choose (fields.map other) := by rw [agree.map_eq]
    _ = second := placed second other isOther

/-- The records are assigned to partitions in the way that a partitioning tells. -/
def Follows (data : DataSet Value parallelism) : Partitioning → Prop
  | .hash fields => ∃ choose, data.PlacedBy choose fields
  | .any fields => ∃ choose, data.PlacedBy choose fields
  | .range order _ => ∃ choose, data.PlacedBy choose order.fields
  | .replicated => data.IsReplicated
  | .random => True

/-- Fields that decide on the partition gather the records that agree on them. -/
theorem Follows.gathers
    {data : DataSet Value parallelism}
    {partitioning : Partitioning}
    (follows : data.Follows partitioning)
    {deciding : FieldSet}
    (isDeciding : partitioning.fields? = some deciding) :
    data.Gathers deciding := by
  cases partitioning with
  | hash fields =>
      obtain ⟨choose, placed⟩ := follows
      exact Option.some.inj isDeciding ▸ placed.gathers
  | any fields =>
      obtain ⟨choose, placed⟩ := follows
      exact Option.some.inj isDeciding ▸ placed.gathers
  | range order histogram =>
      obtain ⟨choose, placed⟩ := follows
      exact Option.some.inj isDeciding ▸ placed.gathers
  | replicated => exact absurd isDeciding (by simp [Partitioning.fields?])
  | random => exact absurd isDeciding (by simp [Partitioning.fields?])

/--
The records of the logical data set: what each partition holds if the data set is replicated, and what all
partitions hold together otherwise.
-/
def logicalRecords (data : DataSet Value parallelism) : Partitioning → List (Record Value)
  | .replicated => ((List.finRange parallelism).map data.partition).headD []
  | _ => (List.finRange parallelism).flatMap data.partition

theorem logicalRecords_of_ne_replicated
    {data : DataSet Value parallelism}
    {partitioning : Partitioning}
    (spread : partitioning ≠ .replicated) :
    data.logicalRecords partitioning = (List.finRange parallelism).flatMap data.partition := by
  cases partitioning with
  | replicated => exact absurd rfl spread
  | random => rfl
  | hash fields => rfl
  | any fields => rfl
  | range order histogram => rfl

/-- The data set has the partitioning and the unique fields that the properties name. -/
structure Realises (data : DataSet Value parallelism) (properties : GlobalProperties) : Prop where
  follows : data.Follows properties.partitioning
  /-- No two records of the logical data set agree on unique fields. -/
  unique : ∀ fields ∈ properties.uniqueSets,
    (data.logicalRecords properties.partitioning).Pairwise fun first second =>
      ¬ Record.AgreeOn fields first second

/-- Where records are not copied, a record that agrees with another one on unique fields is that one. -/
theorem Realises.gathers_unique
    {data : DataSet Value parallelism}
    {properties : GlobalProperties}
    (realises : data.Realises properties)
    (spread : properties.partitioning ≠ .replicated)
    {fields : FieldSet}
    (isUnique : fields ∈ properties.uniqueSets) :
    data.Gathers fields := by
  have apart := realises.unique fields isUnique
  rw [logicalRecords_of_ne_replicated spread, List.pairwise_flatMap] at apart
  have apartInOrder : ∀ first second, first < second → ∀ one ∈ data.partition first,
      ∀ other ∈ data.partition second, ¬ Record.AgreeOn fields one other := by
    intro first second before
    simpa using List.pairwise_iff_getElem.mp apart.2 first.val second.val (by simp) (by simp) before
  intro first second one isOne other isOther agree
  rcases Nat.lt_trichotomy first.val second.val with before | same | after
  · exact absurd agree (apartInOrder first second before one isOne other isOther)
  · exact Fin.ext same
  · exact absurd agree.symm (apartInOrder second first after other isOther one isOne)

end DataSet

end Dataflow
