import Dataflow.Proofs.Data.DataSet

namespace Dataflow.DataSet

/-!
# Repartitioned data

Repartitioning moves every stored record to some partition.  A replicated data set stores each record once for
each of its partitions, so that as many copies of it arrive.
-/

variable {Value : Type} {parallelism target : Nat}

/-- All records that the partitions hold; of a replicated data set, all copies. -/
def stored (data : DataSet Value parallelism) : List (Record Value) :=
  (List.finRange parallelism).flatMap data.partition

/-- The data set has been repartitioned: each record stored before is now in some partition. -/
def MovedFrom (moved : DataSet Value target) (data : DataSet Value parallelism) : Prop :=
  moved.stored.Perm data.stored

/-- The records of a data set, so many times one after another. -/
def copies (data : DataSet Value parallelism) (partitioning : Partitioning) (count : Nat) :
    List (Record Value) :=
  (List.replicate count (data.logicalRecords partitioning)).flatten

/-- A replicated data set stores as many copies of its records as it has partitions. -/
theorem stored_eq_copies
    {data : DataSet Value parallelism}
    (replicated : data.IsReplicated) :
    data.stored = data.copies .replicated parallelism := by
  obtain ⟨full, holdsFull⟩ := replicated
  have samePartitions : data.partition = fun _ => full := funext holdsFull
  have mapped : (List.finRange parallelism).map data.partition = List.replicate parallelism full := by
    rw [samePartitions, List.map_const', List.length_finRange]
  rw [stored, List.flatMap_def, copies, logicalRecords, mapped]
  cases parallelism <;> rfl

/-- After a replicated data set has been repartitioned, each record is there once for each replica. -/
theorem MovedFrom.perm_copies
    {data : DataSet Value parallelism}
    {moved : DataSet Value target}
    (isMoved : moved.MovedFrom data)
    (replicated : data.IsReplicated)
    {partitioning : Partitioning}
    (spread : partitioning ≠ .replicated) :
    (moved.logicalRecords partitioning).Perm (data.copies .replicated parallelism) := by
  rw [logicalRecords_of_ne_replicated spread, ← stored_eq_copies replicated]
  exact isMoved

/-- Unless there is one replica only, no field combination is unique any more. -/
theorem MovedFrom.not_realises
    {data : DataSet Value parallelism}
    {moved : DataSet Value target}
    (isMoved : moved.MovedFrom data)
    (replicated : data.IsReplicated)
    (severalReplicas : 1 < parallelism)
    (someRecord : data.logicalRecords .replicated ≠ [])
    {properties : GlobalProperties}
    (spread : properties.partitioning ≠ .replicated)
    {fields : FieldSet}
    (isUnique : fields ∈ properties.uniqueSets) :
    ¬ moved.Realises properties := by
  intro realises
  have apart : (data.copies .replicated parallelism).Pairwise fun first second =>
      ¬ Record.AgreeOn fields first second :=
    ((isMoved.perm_copies replicated spread).pairwise_iff fun differ agree => differ agree.symm).mp
      (realises.unique fields isUnique)
  rw [copies, List.pairwise_flatten, List.pairwise_replicate] at apart
  obtain ⟨record, isRecord⟩ := List.exists_mem_of_ne_nil _ someRecord
  rcases apart.2 with singleReplica | copiesDiffer
  · exact absurd severalReplicas (Nat.not_lt.mpr singleReplica)
  · exact copiesDiffer record isRecord record isRecord fun _ _ => rfl

end Dataflow.DataSet
