import Dataflow.Proofs.Data.DataSet
import Dataflow.Proofs.Properties.Satisfaction
import Dataflow.Strategy.Driver

namespace Dataflow

/-!
# Groups of records

What orders, groupings and unique fields say about the sequence of records in a partition.  Where the
requirement of a reduction is met, each of its groups is in one partition and makes up one run there.
-/

/-- The items that satisfy a condition follow one another, with no other item between them. -/
def MakesRun {Item : Type} (condition : Item → Prop) (items : List Item) : Prop :=
  ∃ before run after, items = before ++ run ++ after ∧
    (∀ item ∈ run, condition item) ∧ ∀ item ∈ before ++ after, ¬ condition item

/-- It is enough that no item parts two others that satisfy the condition. -/
theorem makesRun_of_sublist
    {Item : Type}
    {condition : Item → Prop}
    {items : List Item}
    (unparted : ∀ first middle last, [first, middle, last].Sublist items →
      condition first → condition last → condition middle) :
    MakesRun condition items := by
  induction items with
  | nil => exact ⟨[], [], [], rfl, by simp, by simp⟩
  | cons head rest inductionHypothesis =>
      obtain ⟨before, run, after, rfl, inside, outside⟩ := inductionHypothesis
        fun first middle last ordered => unparted first middle last (ordered.cons head)
      by_cases satisfied : condition head
      · cases before with
        | nil =>
            refine ⟨[], head :: run, after, rfl, ?_, outside⟩
            exact List.forall_mem_cons.mpr ⟨satisfied, inside⟩
        | cons stranger further =>
            -- A later run would be parted from the head by the stranger, so there is none.
            have noRun : run = [] := by
              refine List.eq_nil_iff_forall_not_mem.mpr fun last isLast => ?_
              have isLater : [last].Sublist (further ++ run ++ after) :=
                List.singleton_sublist.mpr (by simp [isLast])
              exact outside stranger (by simp) <|
                unparted head stranger last ((isLater.cons_cons stranger).cons_cons head) satisfied
                  (inside last isLast)
            subst noRun
            exact ⟨[], [head], stranger :: further ++ after, by simp, by simpa using satisfied, outside⟩
      · refine ⟨head :: before, run, after, rfl, inside, ?_⟩
        exact List.forall_mem_cons.mpr ⟨satisfied, outside⟩

namespace Direction

variable {Value : Type} [LT Value]

/-- The first value precedes the second one in a direction. -/
def Before : Direction → Value → Value → Prop
  | .ascending, first, second => first < second
  | .descending, first, second => second < first

instance [DecidableLT Value] (direction : Direction) (first second : Value) :
    Decidable (direction.Before first second) := by
  unfold Before
  split <;> infer_instance

variable [StrictTotal Value] {direction : Direction}

theorem Before.irrefl (value : Value) : ¬ direction.Before value value := by
  cases direction <;> exact StrictTotal.irrefl value

theorem Before.trans
    {first second third : Value}
    (before : direction.Before first second)
    (after : direction.Before second third) :
    direction.Before first third := by
  cases direction with
  | ascending => exact @StrictTotal.trans Value _ _ _ _ _ before after
  | descending => exact @StrictTotal.trans Value _ _ _ _ _ after before

end Direction

namespace Record

variable {Value : Type}

instance [DecidableEq Value] (fields : FieldSet) (first second : Record Value) :
    Decidable (AgreeOn fields first second) :=
  inferInstanceAs (Decidable (∀ field ∈ fields.toList, first field = second field))

/-- Records that agree on the fields follow one another. -/
def AdjacentOn (fields : FieldSet) (records : List (Record Value)) : Prop :=
  ∀ record ∈ records, MakesRun (AgreeOn fields record) records

/-- Compared by one column after another, the first record comes first or is equal to the second one. -/
def InOrder [LT Value] : List SortColumn → Record Value → Record Value → Prop
  | [], _, _ => True
  | column :: rest, first, second =>
      column.direction.Before (first column.field) (second column.field) ∨
        first column.field = second column.field ∧ InOrder rest first second

instance decidableInOrder [LT Value] [DecidableLT Value] [DecidableEq Value] :
    (columns : List SortColumn) → (first second : Record Value) → Decidable (InOrder columns first second)
  | [], _, _ => isTrue trivial
  | _ :: rest, first, second =>
      haveI := decidableInOrder rest first second
      inferInstanceAs (Decidable (_ ∨ _ ∧ _))

/-- What lies between two records that agree in all columns agrees with them. -/
theorem InOrder.agree_between
    [LT Value]
    [StrictTotal Value]
    {columns : List SortColumn}
    {first middle last : Record Value}
    (before : InOrder columns first middle)
    (after : InOrder columns middle last)
    (agree : ∀ column ∈ columns, first column.field = last column.field) :
    ∀ column ∈ columns, first column.field = middle column.field := by
  induction columns with
  | nil => simp
  | cons head rest inductionHypothesis =>
      obtain ⟨headAgrees, restAgrees⟩ := List.forall_mem_cons.mp agree
      -- A strict step at this column would part the two records, which agree there.
      have noStep : ¬ head.direction.Before (first head.field) (last head.field) := by
        rw [headAgrees]
        exact Direction.Before.irrefl _
      rcases before with strictly | ⟨same, beforeInRest⟩ <;>
        rcases after with strictlyNext | ⟨sameNext, afterInRest⟩
      · exact absurd (strictly.trans strictlyNext) noStep
      · exact absurd (sameNext ▸ strictly) noStep
      · exact absurd (same ▸ strictlyNext) noStep
      · exact List.forall_mem_cons.mpr ⟨same, inductionHypothesis beforeInRest afterInRest restAgrees⟩

/-- Records that follow one another in an order do so in its leading columns. -/
theorem InOrder.of_append
    [LT Value]
    {leading further : List SortColumn}
    {first second : Record Value}
    (inOrder : InOrder (leading ++ further) first second) :
    InOrder leading first second := by
  induction leading with
  | nil => trivial
  | cons head rest inductionHypothesis => exact inOrder.imp_right (And.imp_right inductionHypothesis)

/-- To agree on the fields of an order is to agree in each of its columns. -/
theorem agreeOn_fieldSet_iff
    {order : SortOrder}
    {first second : Record Value} :
    AgreeOn order.fieldSet first second ↔
      ∀ column ∈ order.columns, first column.field = second column.field := by
  simp only [AgreeOn, SortOrder.fieldSet, FieldList.mem_toSet, SortOrder.fields]
  exact List.forall_mem_map

end Record

namespace LocalProperties

variable {Value : Type} [LT Value]

/-- The records of a partition follow one another in the way that the properties tell. -/
structure TrueOf (properties : LocalProperties) (records : List (Record Value)) : Prop where
  sorted : ∀ order ∈ properties.order, records.Pairwise (Record.InOrder order.columns)
  adjacent : ∀ fields ∈ properties.grouped, Record.AdjacentOn fields records
  /-- No two records of the partition agree on unique fields. -/
  unique : ∀ fields ∈ properties.uniqueSets,
    records.Pairwise fun first second => ¬ Record.AgreeOn fields first second

/-- What the properties name as a grouping is one. -/
theorem TrueOf.adjacentOn
    [StrictTotal Value]
    {properties : LocalProperties}
    {records : List (Record Value)}
    (isTrue : properties.TrueOf records)
    {fields : FieldSet}
    (grouped : properties.IsGroupedOn fields) :
    Record.AdjacentOn fields records := by
  rcases grouped with declared | leading | ⟨unique, isUnique, smaller⟩
  · exact isTrue.adjacent fields declared
  · obtain ⟨order, isOrder, leadingFields⟩ := Option.bind_eq_some_iff.mp leading
    obtain ⟨leading, ⟨further, columns_eq⟩, _, rfl⟩ := SortOrder.leadingFields?_eq_some_iff.mp leadingFields
    intro record _
    apply makesRun_of_sublist
    intro first middle last ordered agreesFirst agreesLast
    have sorted := (isTrue.sorted order isOrder).sublist ordered
    simp only [← columns_eq, List.pairwise_cons, List.mem_cons, forall_eq_or_imp] at sorted
    have between := Record.InOrder.agree_between sorted.1.1.of_append sorted.2.1.1.of_append
      (Record.agreeOn_fieldSet_iff.mp (agreesFirst.symm.trans agreesLast))
    exact agreesFirst.trans (Record.agreeOn_fieldSet_iff.mpr between)
  · intro record _
    apply makesRun_of_sublist
    intro first middle last ordered agreesFirst agreesLast
    have apart := (isTrue.unique unique isUnique).sublist ordered
    simp only [List.pairwise_cons, List.mem_cons, forall_eq_or_imp] at apart
    exact absurd ((agreesFirst.symm.trans agreesLast).mono smaller) apart.1.2.1

end LocalProperties

namespace Driver

/--
A reduction finds each of its groups in one partition, unless its input is replicated, and in each partition as
one run.
-/
theorem sortedReduce_groups_make_runs
    {keys : FieldSet}
    {combinable : Bool}
    {row : List InputRequirement}
    (isRow : row ∈ (Driver.sortedReduce keys combinable).requirements)
    {requirement : InputRequirement}
    (isRequirement : requirement ∈ row)
    {globally : GlobalProperties}
    (globallyMet : requirement.globally.IsMetBy globally)
    {locally : LocalProperties}
    (locallyMet : requirement.locally.IsMetBy locally)
    {Value : Type}
    [LT Value]
    [StrictTotal Value]
    {parallelism : Nat}
    {data : DataSet Value parallelism}
    (follows : globally.isReplicated = false → data.Follows globally.partitioning)
    (isTrue : ∀ position, locally.TrueOf (data.partition position)) :
    (globally.isReplicated = false → data.Gathers keys) ∧
      ∀ position, Record.AdjacentOn keys (data.partition position) := by
  obtain rfl : row = [⟨.any keys, .groupedBy keys⟩] := by
    simpa [requirements, globalRows, localRow] using isRow
  obtain rfl := List.mem_singleton.mp isRequirement
  constructor
  · intro spread
    have partitioned : globally.isPartitionedOn keys = true := by
      simpa [GlobalRequest.IsMetBy, GlobalRequest.metByPartitioning, spread] using globallyMet
    obtain ⟨deciding, isDeciding, _, smaller⟩ := GlobalProperties.isPartitionedOn_iff.mp partitioned
    exact ((follows spread).gathers isDeciding).mono smaller
  · intro position
    exact (isTrue position).adjacentOn (LocalRequest.isMetBy_groupedBy.mp locallyMet)

/-- Sales by shop, day and number, with the later days in the first partition. -/
def salesByDay : DataSet Nat 2 where
  partition position :=
    (if position.val = 0 then [[0, 9, 1], [0, 9, 4], [2, 9, 0], [1, 7, 3]] else [[3, 4, 5], [3, 4, 6], [0, 2, 2]]).map
      fun (values : List Nat) field => values.getD field 0

/--
Sales that are spread over ranges of days, and sorted by descending day and then by shop and number, are ready
for a reduction by shop and day.
-/
theorem sortedReduce_groups_make_runs_salesByDay :
    let keys : FieldSet := .ofList [0, 1]
    let globally : GlobalProperties := { partitioning := .range ⟨[⟨1, .descending⟩]⟩ none }
    let locally : LocalProperties :=
      { order := some ⟨[⟨1, .descending⟩, ⟨0, .ascending⟩, ⟨2, .ascending⟩]⟩,
        uniqueSets := .ofList [.ofList [1, 2]] }
    (GlobalRequest.any keys).IsMetBy globally ∧ (LocalRequest.groupedBy keys).IsMetBy locally ∧
      salesByDay.Gathers keys ∧ ∀ position, Record.AdjacentOn keys (salesByDay.partition position) := by
  intro keys globally locally
  have globallyMet : (GlobalRequest.any keys).IsMetBy globally := by decide
  have locallyMet : (LocalRequest.groupedBy keys).IsMetBy locally := by decide
  have follows : salesByDay.Follows globally.partitioning := by
    refine ⟨fun values => if 5 ≤ values.headD 0 then 0 else 1, ?_⟩
    show ∀ position, ∀ record ∈ salesByDay.partition position,
      (if 5 ≤ ([1].map record).headD 0 then 0 else 1) = position
    decide
  have isTrue : ∀ position, locally.TrueOf (salesByDay.partition position) := by
    refine fun position => ⟨?_, by simp [locally], ?_⟩
    · intro order isOrder
      obtain rfl := Option.some.inj isOrder
      exact (by decide : ∀ position, (salesByDay.partition position).Pairwise
        (Record.InOrder [⟨1, .descending⟩, ⟨0, .ascending⟩, ⟨2, .ascending⟩])) position
    · intro fields isUnique
      obtain rfl : fields = .ofList [1, 2] := List.mem_singleton.mp isUnique
      exact (by decide : ∀ position, (salesByDay.partition position).Pairwise
        fun first second => ¬ Record.AgreeOn (.ofList [1, 2]) first second) position
  have isRow : [⟨.any keys, .groupedBy keys⟩] ∈ (Driver.sortedReduce keys false).requirements := .head _
  have groups := sortedReduce_groups_make_runs isRow (.head _) globallyMet locallyMet (fun _ => follows) isTrue
  exact ⟨globallyMet, locallyMet, groups.1 rfl, groups.2⟩

end Driver

end Dataflow
