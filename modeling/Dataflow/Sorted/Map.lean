import Dataflow.Sorted.Order

namespace Dataflow

/-!
# Sorted maps

A finite map kept as its list of entries with strictly increasing keys, so that two maps with the same
entries are the same value and every walk over the entries goes in key order.
-/

/-- A finite map, represented by its entries in strictly increasing order of their keys. -/
structure SortedMap (Key Entry : Type) [LT Key] where
  entries : List (Key × Entry)
  increasing : entries.Pairwise (fun first second => first.1 < second.1) := by decide

namespace SortedMap

section Order

variable {Key Entry : Type} [LT Key]

@[ext]
theorem ext_entries :
    {first second : SortedMap Key Entry} →
    first.entries = second.entries →
    first = second
  | ⟨_, _⟩, ⟨_, _⟩, rfl => rfl

instance [DecidableEq Key] [DecidableEq Entry] : DecidableEq (SortedMap Key Entry) :=
  fun first second =>
    decidable_of_iff (first.entries = second.entries)
      ⟨ext_entries, fun same => same ▸ rfl⟩

instance [BEq Key] [BEq Entry] : BEq (SortedMap Key Entry) where
  beq first second := first.entries == second.entries

instance [Repr Key] [Repr Entry] : Repr (SortedMap Key Entry) where
  reprPrec map _ := repr map.entries

/-- The map without entries. -/
def empty : SortedMap Key Entry := ⟨[], List.Pairwise.nil⟩

instance : Inhabited (SortedMap Key Entry) := ⟨empty⟩

/-- The keys in increasing order. -/
def keys (map : SortedMap Key Entry) : List Key := map.entries.map Prod.fst

/-- The entry of a key, if there is one. -/
def get? [BEq Key] (map : SortedMap Key Entry) (key : Key) : Option Entry :=
  map.entries.lookup key

@[simp]
theorem get?_empty
    [BEq Key]
    {key : Key} :
    (empty : SortedMap Key Entry).get? key = none :=
  rfl

/-- The entries whose key satisfies a condition. -/
def filterKeys (keep : Key → Bool) (map : SortedMap Key Entry) : SortedMap Key Entry :=
  ⟨map.entries.filter (fun pair => keep pair.1), map.increasing.filter _⟩

/-- A look-up after filtering finds the entries of kept keys and no others. -/
theorem get?_filterKeys
    [BEq Key]
    [LawfulBEq Key]
    {keep : Key → Bool}
    {map : SortedMap Key Entry}
    {key : Key} :
    (map.filterKeys keep).get? key = if keep key then map.get? key else none := by
  obtain ⟨entries, increasing⟩ := map
  show (entries.filter fun pair => keep pair.1).lookup key =
    if keep key then entries.lookup key else none
  clear increasing
  induction entries with
  | nil => simp
  | cons first rest inductionHypothesis =>
      obtain ⟨firstKey, firstEntry⟩ := first
      cases kept : keep firstKey with
      | true =>
          simp only [List.filter_cons, kept, if_true, List.lookup_cons, inductionHypothesis]
          by_cases sameKey : key == firstKey
          · have keptKey : keep key = true := (beq_iff_eq.mp sameKey) ▸ kept
            simp [sameKey, keptKey]
          · simp [sameKey]
      | false =>
          simp only [List.filter_cons, kept, Bool.false_eq_true, if_false, List.lookup_cons,
            inductionHypothesis]
          by_cases sameKey : key == firstKey
          · have droppedKey : keep key = false := (beq_iff_eq.mp sameKey) ▸ kept
            simp [droppedKey]
          · simp [sameKey]

end Order

variable {Key Entry : Type} [LT Key] [DecidableLT Key]

/-- Put an entry into a list of entries at the place of its key, in place of an entry of that key. -/
def place (key : Key) (entry : Entry) : List (Key × Entry) → List (Key × Entry)
  | [] => [(key, entry)]
  | first :: rest =>
      if key < first.1 then
        (key, entry) :: first :: rest
      else if first.1 < key then
        first :: place key entry rest
      else
        (key, entry) :: rest

/-- Every entry after placing is the placed one or was there before. -/
theorem eq_or_mem_of_mem_place
    {key : Key}
    {entry : Entry}
    {entries : List (Key × Entry)}
    {pair : Key × Entry}
    (member : pair ∈ place key entry entries) :
    pair = (key, entry) ∨ pair ∈ entries := by
  induction entries with
  | nil => simpa [place] using member
  | cons first rest inductionHypothesis =>
      unfold place at member
      split at member
      · simpa using member
      · split at member
        · rcases List.mem_cons.mp member with same | inRest
          · exact .inr (same ▸ .head rest)
          · rcases inductionHypothesis inRest with same | inTail
            · exact .inl same
            · exact .inr (.tail first inTail)
        · rcases List.mem_cons.mp member with same | inRest
          · exact .inl same
          · exact .inr (.tail first inRest)

variable [StrictTotal Key]

theorem pairwise_place
    {key : Key}
    {entry : Entry}
    {entries : List (Key × Entry)}
    (increasing : entries.Pairwise (fun first second => first.1 < second.1)) :
    (place key entry entries).Pairwise (fun first second => first.1 < second.1) := by
  induction entries with
  | nil => simp [place]
  | cons first rest inductionHypothesis =>
      obtain ⟨firstLeast, restIncreasing⟩ := List.pairwise_cons.mp increasing
      unfold place
      split
      · rename_i before
        refine List.pairwise_cons.mpr ⟨?_, increasing⟩
        intro other member
        rcases List.mem_cons.mp member with same | inRest
        · exact same ▸ before
        · exact StrictTotal.trans before (firstLeast other inRest)
      · split
        · rename_i after
          refine List.pairwise_cons.mpr ⟨?_, inductionHypothesis restIncreasing⟩
          intro other member
          rcases eq_or_mem_of_mem_place member with same | inRest
          · exact same ▸ after
          · exact firstLeast other inRest
        · rename_i notBefore notAfter
          have same : key = first.1 := StrictTotal.connected notBefore notAfter
          refine List.pairwise_cons.mpr ⟨?_, restIncreasing⟩
          intro other member
          exact same ▸ firstLeast other member

/-- The map with an entry added, in place of an earlier entry of that key. -/
def insert (key : Key) (entry : Entry) (map : SortedMap Key Entry) : SortedMap Key Entry :=
  ⟨place key entry map.entries, pairwise_place map.increasing⟩

/-- A look-up after an insertion finds the new entry at its key and the earlier entries elsewhere. -/
theorem get?_insert
    [BEq Key]
    [LawfulBEq Key]
    {key other : Key}
    {entry : Entry}
    {map : SortedMap Key Entry} :
    (map.insert key entry).get? other =
      if other == key then some entry else map.get? other := by
  obtain ⟨entries, increasing⟩ := map
  show (place key entry entries).lookup other = if other == key then some entry else entries.lookup other
  clear increasing
  induction entries with
  | nil =>
      simp only [place, List.lookup_cons, List.lookup_nil]
      cases other == key <;> rfl
  | cons first rest inductionHypothesis =>
      obtain ⟨firstKey, firstEntry⟩ := first
      unfold place
      split
      · simp only [List.lookup_cons]
        cases other == key <;> rfl
      · split
        · rename_i after
          simp only [List.lookup_cons, inductionHypothesis]
          by_cases sameFirst : other == firstKey
          · have different : ¬ (other == key) := by
              simp only [beq_iff_eq] at sameFirst ⊢
              exact sameFirst ▸ StrictTotal.ne_of_lt after
            simp [sameFirst, different]
          · simp [sameFirst]
        · rename_i notBefore notAfter
          have same : key = firstKey := StrictTotal.connected notBefore notAfter
          subst same
          simp only [List.lookup_cons]
          split <;> simp_all

/-- The map with every entry of a list added in turn, later ones taking the place of earlier ones. -/
def insertAll
    (entries : List (Key × Entry))
    (map : SortedMap Key Entry) :
    SortedMap Key Entry :=
  entries.foldl (fun grown pair => grown.insert pair.1 pair.2) map

/-- The map of a list of entries, in which later entries of a key win. -/
def ofList (entries : List (Key × Entry)) : SortedMap Key Entry := empty.insertAll entries

end SortedMap

end Dataflow
