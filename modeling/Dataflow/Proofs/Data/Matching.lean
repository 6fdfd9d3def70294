import Dataflow.Program.Operator
import Dataflow.Proofs.Data.DataSet
import Dataflow.Proofs.Properties.Satisfaction

namespace Dataflow

/-!
# Matching records of joined data sets

Two records that agree on the keys of a join must be in one partition for the join to find them, and in one
partition only for the join to find them once.
-/

namespace DataSet

variable {Value : Type} {parallelism : Nat}

/--
Records are hashed by one function that all data sets of the same parallelism share.  What other
partitionings do is left open.
-/
def FollowsHash
    (data : DataSet Value parallelism)
    (hash : List Value → Fin parallelism) :
    Partitioning → Prop
  | .hash fields => data.PlacedBy hash fields
  | .replicated => data.IsReplicated
  | _ => True

/-- A record where it is stored, so that equal records are told apart. -/
structure Entry (data : DataSet Value parallelism) where
  position : Fin parallelism
  index : Fin (data.partition position).length

namespace Entry

variable {data : DataSet Value parallelism}

def record (entry : data.Entry) : Record Value := (data.partition entry.position)[entry.index]

theorem record_mem (entry : data.Entry) : entry.record ∈ data.partition entry.position :=
  List.getElem_mem _

/--
Two entries are the same record.  In a replicated data set these are the entries at the same place in the
full list that every partition holds.
-/
def IsCopyOf (partitioning : Partitioning) (copy entry : data.Entry) : Prop :=
  copy = entry ∨
    partitioning = .replicated ∧ copy.index.val = entry.index.val ∧ copy.record = entry.record

/-- A partition holds the record of an entry. -/
def IsIn (partitioning : Partitioning) (entry : data.Entry) (position : Fin parallelism) : Prop :=
  ∃ copy : data.Entry, copy.IsCopyOf partitioning entry ∧ copy.position = position

/-- A record is in every partition of a replicated data set, and in one partition of any other one. -/
theorem isIn_iff
    {hash : List Value → Fin parallelism}
    {partitioning : Partitioning}
    (follows : data.FollowsHash hash partitioning)
    {entry : data.Entry}
    {position : Fin parallelism} :
    entry.IsIn partitioning position ↔ partitioning = .replicated ∨ position = entry.position := by
  constructor
  · rintro ⟨copy, rfl | ⟨replicated, _⟩, rfl⟩
    · exact .inr rfl
    · exact .inl replicated
  · rintro (rfl | rfl)
    · obtain ⟨full, holdsFull⟩ := follows
      have samePartition : data.partition position = data.partition entry.position :=
        (holdsFull position).trans (holdsFull entry.position).symm
      refine ⟨⟨position, entry.index.val, ?_⟩, .inr ⟨rfl, rfl, ?_⟩, rfl⟩
      · rw [samePartition]
        exact entry.index.isLt
      · simp [record, samePartition]
    · exact ⟨entry, .inl rfl, rfl⟩

end Entry

end DataSet

/-- The keys at the same place in both key lists have the same value. -/
def Record.Match {Value : Type} (left right : FieldList) (one other : Record Value) : Prop :=
  ∀ keys ∈ left.zip right, one keys.1 = other keys.2

/-- Keys that stand at the same place of both key lists have the same values in matching records. -/
theorem Record.Match.map_eq
    {Value : Type}
    {left right first second : FieldList}
    {one other : Record Value}
    (isMatch : Record.Match left right one other)
    (sameLength : first.length = second.length)
    (samePlaces : ∀ keys ∈ first.zip second,
      left.position? keys.1 ≠ none ∧ left.position? keys.1 = right.position? keys.2) :
    first.map one = second.map other := by
  apply List.ext_getElem (by simpa using sameLength)
  intro index inFirst inSecond
  rw [List.length_map] at inFirst inSecond
  obtain ⟨isPlaced, samePlace⟩ := samePlaces (first[index], second[index]) <|
    List.mem_of_getElem? (i := index) (List.getElem?_zip_eq_some.mpr ⟨by simp, by simp⟩)
  obtain ⟨place, foundLeft⟩ := Option.ne_none_iff_exists'.mp isPlaced
  obtain ⟨inLeft, leftKey, _⟩ := List.idxOf?_eq_some_iff.mp foundLeft
  obtain ⟨inRight, rightKey, _⟩ := List.idxOf?_eq_some_iff.mp (samePlace.symm.trans foundLeft)
  have isPair : (first[index], second[index]) ∈ left.zip right :=
    List.mem_of_getElem? (i := place) <| List.getElem?_zip_eq_some.mpr
      ⟨List.getElem?_eq_some_iff.mpr ⟨inLeft, leftKey⟩, List.getElem?_eq_some_iff.mpr ⟨inRight, rightKey⟩⟩
  simpa using isMatch _ isPair

namespace Driver

theorem coPartitioned_of_replicated
    {left right : FieldList}
    {first second : GlobalProperties}
    (replicated : first.partitioning = .replicated ∨ second.partitioning = .replicated) :
    CoPartitioned left right first second := by
  unfold CoPartitioned
  split <;> simp_all

/-- A join that replicates one of its inputs has them co-partitioned without a check. -/
theorem coPartitioned_of_mem_drivers
    {Number : Type}
    {keys : JoinKeys}
    {preserved : InputSlots FieldSet}
    {driver : Driver}
    (isDriver : driver ∈ (Operator.join keys preserved : Operator Number).drivers)
    {row : List InputRequirement}
    (isRow : row ∈ driver.requirements)
    {left right : GlobalProperties}
    (met : ∀ input ∈ row.zip [left, right], input.1.globally.IsMetBy input.2)
    (compatible : driver.IsCompatible [left, right]) :
    CoPartitioned keys.left keys.right left right := by
  simp only [Operator.drivers, List.mem_cons, List.not_mem_nil, or_false] at isDriver
  rcases isDriver with rfl | rfl | rfl | rfl
  · exact compatible
  · exact compatible
  · obtain rfl : row = [⟨.replicated, .none⟩, ⟨.random, .none⟩] := by
      simpa [requirements, globalRows, localRow] using isRow
    have isMet := met (⟨.replicated, .none⟩, left) (by simp)
    exact coPartitioned_of_replicated (.inl (GlobalRequest.isMetBy_replicated.mp isMet))
  · obtain rfl : row = [⟨.random, .none⟩, ⟨.replicated, .none⟩] := by
      simpa [requirements, globalRows, localRow] using isRow
    have isMet := met (⟨.replicated, .none⟩, right) (by simp)
    exact coPartitioned_of_replicated (.inr (GlobalRequest.isMetBy_replicated.mp isMet))

theorem CoPartitioned.position_eq
    {left right : FieldList}
    {first second : GlobalProperties}
    (coPartitioned : CoPartitioned left right first second)
    {Value : Type}
    {parallelism : Nat}
    {hash : List Value → Fin parallelism}
    {leftData rightData : DataSet Value parallelism}
    (leftFollows : leftData.FollowsHash hash first.partitioning)
    (rightFollows : rightData.FollowsHash hash second.partitioning)
    {one : leftData.Entry}
    {other : rightData.Entry}
    (isMatch : Record.Match left right one.record other.record) :
    first.partitioning = .replicated ∨ second.partitioning = .replicated ∨
      one.position = other.position := by
  unfold CoPartitioned at coPartitioned
  split at coPartitioned
  · rename_i isReplicated
    exact .inl isReplicated
  · rename_i isReplicated _
    exact .inr (.inl isReplicated)
  · rename_i firstKeys secondKeys firstHashed secondHashed
    obtain ⟨sameLength, samePlaces⟩ := coPartitioned
    rw [firstHashed] at leftFollows
    rw [secondHashed] at rightFollows
    right
    right
    -- The hashed values are those at the same places of the two key lists, in the same order.
    calc
      one.position = hash (firstKeys.map one.record) := (leftFollows _ _ one.record_mem).symm
      _ = hash (secondKeys.map other.record) := by rw [isMatch.map_eq sameLength samePlaces]
      _ = other.position := rightFollows _ _ other.record_mem
  · exact absurd coPartitioned id

/--
A join finds every pair of matching records, since some partition holds both.  Only where both inputs are
replicated is there more than one such partition.
-/
theorem matches_meet
    {Number : Type}
    {keys : JoinKeys}
    {preserved : InputSlots FieldSet}
    {driver : Driver}
    (isDriver : driver ∈ (Operator.join keys preserved : Operator Number).drivers)
    {row : List InputRequirement}
    (isRow : row ∈ driver.requirements)
    {left right : GlobalProperties}
    (met : ∀ input ∈ row.zip [left, right], input.1.globally.IsMetBy input.2)
    (compatible : driver.IsCompatible [left, right])
    {Value : Type}
    {parallelism : Nat}
    {hash : List Value → Fin parallelism}
    {leftData rightData : DataSet Value parallelism}
    (leftFollows : leftData.FollowsHash hash left.partitioning)
    (rightFollows : rightData.FollowsHash hash right.partitioning)
    {one : leftData.Entry}
    {other : rightData.Entry}
    (isMatch : Record.Match keys.left keys.right one.record other.record) :
    (∃ position, one.IsIn left.partitioning position ∧ other.IsIn right.partitioning position) ∧
      (¬ (left.isReplicated = true ∧ right.isReplicated = true) →
        ∃ position, ∀ another,
          one.IsIn left.partitioning another ∧ other.IsIn right.partitioning another ↔
            another = position) := by
  have coPartitioned := coPartitioned_of_mem_drivers isDriver isRow met compatible
  have places := coPartitioned.position_eq leftFollows rightFollows isMatch
  simp only [DataSet.Entry.isIn_iff leftFollows, DataSet.Entry.isIn_iff rightFollows,
    GlobalProperties.isReplicated_iff]
  by_cases leftReplicated : left.partitioning = .replicated
  · refine ⟨⟨other.position, .inl leftReplicated, .inr rfl⟩, fun notBoth => ⟨other.position, ?_⟩⟩
    have rightSpread : right.partitioning ≠ .replicated := fun also => notBoth ⟨leftReplicated, also⟩
    simp [leftReplicated, rightSpread]
  · have meet : right.partitioning = .replicated ∨ one.position = other.position := by
      simpa [leftReplicated] using places
    refine ⟨⟨one.position, .inr rfl, meet⟩, fun _ => ⟨one.position, fun another => ?_⟩⟩
    simp only [leftReplicated, false_or]
    constructor
    · exact And.left
    · rintro rfl
      exact ⟨rfl, meet⟩

/-- Two partitions, the second of which holds one record of numbers. -/
def oneRecord (record : Record Nat) : DataSet Nat 2 where
  partition position := if position = Fin.last 1 then [record] else []

def onlyEntry (record : Record Nat) : (oneRecord record).Entry where
  position := Fin.last 1
  index := ⟨0, Nat.zero_lt_one⟩

/-- The inputs of a join on two keys, both hashed on these keys but in the other order. -/
theorem matches_meet_permuted :
    IsCompatible (.repartitionHashJoin [0, 1] [2, 3])
        [{ partitioning := .hash [1, 0] }, { partitioning := .hash [3, 2] }] ∧
      ∃ position, ∀ another,
        (onlyEntry id).IsIn (.hash [1, 0]) another ∧ (onlyEntry (· - 2)).IsIn (.hash [3, 2]) another ↔
          another = position := by
  let keys : JoinKeys := { left := [0, 1], right := [2, 3] }
  let left : GlobalProperties := { partitioning := .hash [1, 0] }
  let right : GlobalProperties := { partitioning := .hash [3, 2] }
  let bySum (values : List Nat) : Fin 2 := Fin.ofNat 2 values.sum
  have isDriver : .repartitionHashJoin [0, 1] [2, 3] ∈
      (Operator.join keys {} : Operator Nat).drivers := .head _
  have isRow : [⟨.hash (.ofList [0, 1]), .none⟩, ⟨.hash (.ofList [2, 3]), .none⟩] ∈
      requirements (.repartitionHashJoin [0, 1] [2, 3]) := .head _
  have compatible : IsCompatible (.repartitionHashJoin [0, 1] [2, 3]) [left, right] := by decide
  have leftFollows : (oneRecord id).FollowsHash bySum left.partitioning := by
    show ∀ position, ∀ record ∈ (oneRecord id).partition position, bySum ([1, 0].map record) = position
    decide
  have rightFollows : (oneRecord (· - 2)).FollowsHash bySum right.partitioning := by
    show ∀ position, ∀ record ∈ (oneRecord (· - 2)).partition position, bySum ([3, 2].map record) = position
    decide
  have isMatch : Record.Match [0, 1] [2, 3] (onlyEntry id).record (onlyEntry (· - 2)).record := by
    show ∀ keys ∈ [(0, 2), (1, 3)], (onlyEntry id).record keys.1 = (onlyEntry (· - 2)).record keys.2
    decide
  exact ⟨compatible, (matches_meet isDriver isRow (by decide) compatible leftFollows rightFollows isMatch).2
    (by decide)⟩

end Driver

end Dataflow
