import Dataflow.Proofs.Candidate.KeyAlignment
import Dataflow.Proofs.Candidate.Maximality
import Dataflow.Proofs.Data.Matching
import Dataflow.Proofs.Search.Production

namespace Dataflow

/-!
# Joins that repartition both inputs

A join that repartitions both inputs can do so for all input candidates exactly if its keys are aligned.  For
other keys it is left with the candidates of which some can be forwarded and happen to fit.
-/

namespace AttemptScope

variable {Number : Type} [Arithmetic Number] {scope : AttemptScope Number}

/-- The candidates that a row leads to on a combination of input candidates. -/
def yield
    (scope : AttemptScope Number)
    (row : Row)
    (sources : List (Candidate Number))
    (number : Nat) :
    List (Candidate Number) :=
  Enumeration.instantiateAll scope number ((scope.attemptsFrom row sources).filterMap Attempt.assembly?)

/-- A candidate is among those of the row if channels from both inputs fit together. -/
theorem yield_ne_nil_iff
    {driver : Driver}
    {left right : InputRequirement}
    {first second : Candidate Number}
    (agree : (BranchPlan.merge? [first.branchPlan, second.branchPlan]).isSome)
    {number : Nat} :
    scope.yield (driver, [left, right]) [first, second] number ≠ [] ↔
      ∃ one ∈ first.channels (scope.request driver 0 left) scope.model,
        ∃ other ∈ second.channels (scope.request driver 1 right) scope.model,
          driver.IsCompatible [one.globally, other.globally] := by
  obtain ⟨merged, isMerged⟩ := Option.isSome_iff_exists.mp agree
  have options : scope.channelOptions (driver, [left, right]) [first, second] =
      [first.channels (scope.request driver 0 left) scope.model,
        second.channels (scope.request driver 1 right) scope.model] := rfl
  rw [yield, Enumeration.instantiateAll, ne_eq, List.mapIdx_eq_nil_iff]
  constructor
  · intro someAssembly
    obtain ⟨_, isAssembly⟩ := List.exists_mem_of_ne_nil _ someAssembly
    obtain ⟨_, _, channels, areChannels, compatible, _⟩ := mem_assembliesFrom_iff.mp isAssembly
    rw [options] at areChannels
    obtain ⟨one, isOne, _, inRest, rfl⟩ := mem_combinations_cons.mp areChannels
    obtain ⟨other, isOther, _, isEmpty, rfl⟩ := mem_combinations_cons.mp inRest
    obtain rfl := mem_combinations_nil.mp isEmpty
    exact ⟨one, isOne, other, isOther, compatible⟩
  · rintro ⟨one, isOne, other, isOther, compatible⟩
    refine List.ne_nil_of_mem
      (mem_assembliesFrom_iff.mpr ⟨merged, isMerged, [one, other], ?_, compatible, rfl⟩)
    rw [options]
    exact mem_combinations_cons.mpr ⟨one, isOne, [other], by simpa using isOther, rfl⟩

omit [Arithmetic Number] in
/-- What the repartitioning drivers of a join request, unless shipping is forced. -/
theorem exists_requirements_hashesOn
    (unforced : scope.context.node.restrictions.shipping = {})
    {keys : JoinKeys}
    {driver : Driver}
    (isDriver : driver ∈ keys.repartitioningDrivers)
    {row : List InputRequirement}
    (isRow : row ∈ driver.requirements) :
    ∃ left right, row = [left, right] ∧
      (scope.request driver 0 left).HashesOn keys.left ∧
        (scope.request driver 1 right).HashesOn keys.right := by
  have hashes : ∀ (input : Nat) (fields : FieldList) (locally : LocalRequest), fields ≠ [] →
      driver.hashKeys? input = some fields → locally.Establishable →
        (scope.request driver input ⟨.hash fields.toSet, locally⟩).HashesOn fields := by
    intro input fields locally someField isKeys establishable
    refine ⟨someField, rfl, isKeys, ?_, establishable⟩
    rw [request, unforced]
    rcases input with _ | _ | input <;> rfl
  rcases JoinKeys.mem_repartitioningDrivers_iff.mp isDriver with rfl | rfl
  · obtain rfl := List.mem_singleton.mp isRow
    exact ⟨_, _, rfl, hashes 0 _ _ keys.nonempty rfl (.inl rfl), hashes 1 _ _ keys.right_ne_nil rfl (.inl rfl)⟩
  · obtain rfl := List.mem_singleton.mp isRow
    exact ⟨_, _, rfl, hashes 0 _ _ keys.nonempty rfl (.inr rfl), hashes 1 _ _ keys.right_ne_nil rfl (.inr rfl)⟩

/-- The partitions of the source can be kept, because it is hashed on some of the keys already. -/
def Forwardable (scope : AttemptScope Number) (keys : FieldList) (source : Candidate Number) : Prop :=
  source.parallelism = scope.context.parallelism ∧ (GlobalRequest.hash keys.toSet).IsMetBy source.globally

omit [Arithmetic Number] in
theorem forwardable_iff
    {driver : Driver}
    {input : Nat}
    {requirement : InputRequirement}
    {keys : FieldList}
    (hashes : (scope.request driver input requirement).HashesOn keys)
    {source : Candidate Number} :
    (scope.request driver input requirement).canForward source.globally source.parallelism = true ↔
      scope.Forwardable keys source := by
  rw [ChannelRequest.canForward_iff, hashes.requested]
  rfl

/-- An input that is forwarded fits the other one, be that forwarded as well or hashed on its keys. -/
def ForwardsFit (scope : AttemptScope Number) (keys : JoinKeys) (first second : Candidate Number) : Prop :=
  let fits := Driver.CoPartitioned keys.left keys.right
  scope.Forwardable keys.left first ∧ fits first.globally { partitioning := .hash keys.right } ∨
    scope.Forwardable keys.right second ∧ fits { partitioning := .hash keys.left } second.globally ∨
      scope.Forwardable keys.left first ∧ scope.Forwardable keys.right second ∧
        fits first.globally second.globally

end AttemptScope

theorem Driver.isCompatible_iff_coPartitioned
    {keys : JoinKeys}
    {driver : Driver}
    (isDriver : driver ∈ keys.repartitioningDrivers)
    {first second : GlobalProperties} :
    driver.IsCompatible [first, second] ↔
      Driver.CoPartitioned keys.left keys.right
        { partitioning := first.partitioning } { partitioning := second.partitioning } := by
  rcases JoinKeys.mem_repartitioningDrivers_iff.mp isDriver with rfl | rfl <;> rfl

namespace AttemptScope

variable {Number : Type} [Arithmetic Number] {scope : AttemptScope Number}

theorem yield_ne_nil_iff_aligned
    (unforced : scope.context.node.restrictions.shipping = {})
    {keys : JoinKeys}
    {driver : Driver}
    (isDriver : driver ∈ keys.repartitioningDrivers)
    {row : List InputRequirement}
    (isRow : row ∈ driver.requirements)
    {first second : Candidate Number}
    (agree : (BranchPlan.merge? [first.branchPlan, second.branchPlan]).isSome)
    {number : Nat} :
    scope.yield (driver, row) [first, second] number ≠ [] ↔
      keys.Aligned ∨ scope.ForwardsFit keys first second := by
  obtain ⟨left, right, rfl, leftHashes, rightHashes⟩ := exists_requirements_hashesOn unforced isDriver isRow
  have aligned : Driver.CoPartitioned keys.left keys.right { partitioning := .hash keys.left }
      { partitioning := .hash keys.right } ↔ keys.Aligned := JoinKeys.coPartitioned_iff_aligned rfl rfl
  -- What matters of a channel is the partitioning that it delivers.
  have byPartitioning :
      (∃ one ∈ first.channels (scope.request driver 0 left) scope.model,
        ∃ other ∈ second.channels (scope.request driver 1 right) scope.model,
          driver.IsCompatible [one.globally, other.globally]) ↔
        ∃ onePartitioning otherPartitioning,
          (∃ one ∈ first.channels (scope.request driver 0 left) scope.model,
            one.globally.partitioning = onePartitioning) ∧
          (∃ other ∈ second.channels (scope.request driver 1 right) scope.model,
            other.globally.partitioning = otherPartitioning) ∧
          Driver.CoPartitioned keys.left keys.right
            { partitioning := onePartitioning } { partitioning := otherPartitioning } := by
    simp only [Driver.isCompatible_iff_coPartitioned isDriver]
    constructor
    · rintro ⟨one, isOne, other, isOther, fits⟩
      exact ⟨_, _, ⟨one, isOne, rfl⟩, ⟨other, isOther, rfl⟩, fits⟩
    · rintro ⟨_, _, ⟨one, isOne, rfl⟩, ⟨other, isOther, rfl⟩, fits⟩
      exact ⟨one, isOne, other, isOther, fits⟩
  rw [yield_ne_nil_iff agree, byPartitioning]
  simp only [leftHashes.exists_channel_iff, rightHashes.exists_channel_iff, forwardable_iff leftHashes,
    forwardable_iff rightHashes]
  constructor
  · rintro ⟨_, _, rfl | ⟨oneForwarded, rfl⟩, rfl | ⟨otherForwarded, rfl⟩, fits⟩
    · exact .inl (aligned.mp fits)
    · exact .inr (.inr (.inl ⟨otherForwarded, fits⟩))
    · exact .inr (.inl ⟨oneForwarded, fits⟩)
    · exact .inr (.inr (.inr ⟨oneForwarded, otherForwarded, fits⟩))
  · rintro (isAligned | ⟨oneForwarded, fits⟩ | ⟨otherForwarded, fits⟩ | ⟨oneForwarded, otherForwarded, fits⟩)
    · exact ⟨_, _, .inl rfl, .inl rfl, aligned.mpr isAligned⟩
    · exact ⟨_, _, .inr ⟨oneForwarded, rfl⟩, .inl rfl, fits⟩
    · exact ⟨_, _, .inl rfl, .inr ⟨otherForwarded, rfl⟩, fits⟩
    · exact ⟨_, _, .inr ⟨oneForwarded, rfl⟩, .inr ⟨otherForwarded, rfl⟩, fits⟩

end AttemptScope

namespace JoinKeys

/--
The inputs of a join fit when both are hashed on the declared keys, exactly if the keys are aligned.  Then each
driver that repartitions both inputs leads to a candidate on every combination of candidates that agree; else it
does so where a forwarded input fits.
-/
theorem repartitioning_accepted_iff
    {keys : JoinKeys}
    {driver : Driver}
    (isDriver : driver ∈ keys.repartitioningDrivers) :
    (∀ leftUnique rightUnique,
        driver.IsCompatible [⟨.hash keys.left, leftUnique⟩, ⟨.hash keys.right, rightUnique⟩] ↔
          keys.Aligned) ∧
      ∀ {Number : Type} [Arithmetic Number] (scope : AttemptScope Number) (first second : Candidate Number),
        scope.context.node.restrictions.shipping = {} →
        (BranchPlan.merge? [first.branchPlan, second.branchPlan]).isSome →
        ∀ row ∈ driver.requirements, ∀ number,
          scope.yield (driver, row) [first, second] number ≠ [] ↔
            keys.Aligned ∨ scope.ForwardsFit keys first second := by
  constructor
  · intro leftUnique rightUnique
    rw [Driver.isCompatible_iff_coPartitioned isDriver]
    exact coPartitioned_iff_aligned rfl rfl
  · intro Number _ scope first second unforced agree row isRow number
    exact AttemptScope.yield_ne_nil_iff_aligned unforced isDriver isRow agree

/-- A join of two scans. -/
def joinScope (keys : JoinKeys) : AttemptScope WholeNumber where
  context :=
    { node := { identifier := 2, name := "priced", operator := .join keys {}, inputs := [0, 1] }
      parallelism := 1
      statistics := {} }
  model := .default
  closes := fun _ => false
  inputs := [[.scan 0 .random 1], [.scan 1 .random 1]]

/-- Keys that are compared twice are aligned. -/
theorem repartitioning_accepted_iff_repeated :
    let keys : JoinKeys := { left := [1, 0, 1], right := [2, 3, 2] }
    .sortMergeJoin keys.left keys.right ∈ keys.repartitioningDrivers ∧ keys.Aligned ∧
      Driver.IsCompatible (.sortMergeJoin keys.left keys.right)
        [⟨.hash keys.left, .empty⟩, ⟨.hash keys.right, .empty⟩] ∧
      ∀ row ∈ (Driver.sortMergeJoin keys.left keys.right).requirements,
        (joinScope keys).yield (.sortMergeJoin keys.left keys.right, row)
          [.scan 0 .random 1, .scan 1 .random 1] 2 ≠ [] := by
  intro keys
  have isDriver : .sortMergeJoin keys.left keys.right ∈ keys.repartitioningDrivers := .tail _ (.head _)
  have aligned : keys.Aligned := by decide
  obtain ⟨compatibleIff, yieldIff⟩ := repartitioning_accepted_iff isDriver
  exact ⟨isDriver, aligned, (compatibleIff _ _).mpr aligned,
    fun row isRow => (yieldIff (joinScope keys) _ _ rfl (by decide) row isRow 2).mpr (.inl aligned)⟩

/--
One field on the left is compared with two fields on the right.  Both inputs are hashed on the declared keys,
which brings matching records together, but the join refuses them.
-/
theorem repartitioning_refused :
    let keys : JoinKeys := { left := [0, 0], right := [1, 2] }
    (∀ driver ∈ keys.repartitioningDrivers,
        ¬ driver.IsCompatible [⟨.hash keys.left, .empty⟩, ⟨.hash keys.right, .empty⟩] ∧
          ∀ row ∈ driver.requirements,
            ((joinScope keys).yield (driver, row) [.scan 0 .random 1, .scan 1 .random 1] 2).isEmpty = true) ∧
      ∀ one other : Record Nat, Record.Match keys.left keys.right one other →
        keys.left.map one = keys.right.map other := by
  intro keys
  refine ⟨by decide, fun one other isMatch => ?_⟩
  have first : one 0 = other 1 := isMatch (0, 1) (by decide)
  have second : one 0 = other 2 := isMatch (0, 2) (by decide)
  simp [keys, ← first, ← second]

end JoinKeys

end Dataflow
