import Dataflow.Sorted.Order

namespace Dataflow

/-!
# Sorted sets

A finite set kept as its strictly increasing list of elements, so that two sets with the same elements
are the same value.  Sets themselves are ordered lexicographically, which lets sets be elements of sets.
-/

/-- A finite set, represented by its strictly increasing list of elements. -/
structure SortedSet (Element : Type) [LT Element] where
  toList : List Element
  increasing : toList.Pairwise (· < ·) := by decide

namespace SortedSet

section Order

variable {Element : Type} [LT Element]

@[ext]
theorem ext_toList :
    {first second : SortedSet Element} →
    first.toList = second.toList →
    first = second
  | ⟨_, _⟩, ⟨_, _⟩, rfl => rfl

instance [DecidableEq Element] : DecidableEq (SortedSet Element) := fun first second =>
  decidable_of_iff (first.toList = second.toList) ⟨ext_toList, fun same => same ▸ rfl⟩

instance [Repr Element] : Repr (SortedSet Element) where
  reprPrec set _ := repr set.toList

/-- The set without elements. -/
def empty : SortedSet Element := ⟨[], List.Pairwise.nil⟩

instance : EmptyCollection (SortedSet Element) := ⟨empty⟩

instance : Inhabited (SortedSet Element) := ⟨empty⟩

/-- Number of elements. -/
def size (set : SortedSet Element) : Nat := set.toList.length

/-- Whether the set has no elements. -/
def isEmpty (set : SortedSet Element) : Bool := set.toList.isEmpty

instance : Membership Element (SortedSet Element) := ⟨fun set element => element ∈ set.toList⟩

theorem mem_def
    {element : Element}
    {set : SortedSet Element} :
    element ∈ set ↔ element ∈ set.toList :=
  Iff.rfl

@[simp]
theorem not_mem_empty (element : Element) : ¬ element ∈ (empty : SortedSet Element) := by
  simp [mem_def, empty]

instance [DecidableEq Element] (element : Element) (set : SortedSet Element) :
    Decidable (element ∈ set) :=
  inferInstanceAs (Decidable (element ∈ set.toList))

instance : HasSubset (SortedSet Element) :=
  ⟨fun first second => ∀ element ∈ first.toList, element ∈ second.toList⟩

theorem subset_def
    {first second : SortedSet Element} :
    first ⊆ second ↔ ∀ element, element ∈ first → element ∈ second :=
  Iff.rfl

instance [DecidableEq Element] (first second : SortedSet Element) : Decidable (first ⊆ second) :=
  inferInstanceAs (Decidable (∀ element ∈ first.toList, element ∈ second.toList))

instance : LT (SortedSet Element) := ⟨fun first second => first.toList < second.toList⟩

instance [DecidableEq Element] [DecidableLT Element] : DecidableLT (SortedSet Element) :=
  fun first second => inferInstanceAs (Decidable (first.toList < second.toList))

instance [StrictTotal Element] : StrictTotal (SortedSet Element) where
  irrefl set := StrictTotal.irrefl set.toList
  trans before after := @StrictTotal.trans (List Element) _ _ _ _ _ before after
  connected notBefore notAfter :=
    ext_toList (@StrictTotal.connected (List Element) _ _ _ _ notBefore notAfter)

/-- The elements that satisfy a condition. -/
def filter (keep : Element → Bool) (set : SortedSet Element) : SortedSet Element :=
  ⟨set.toList.filter keep, set.increasing.filter keep⟩

@[simp]
theorem mem_filter
    {keep : Element → Bool}
    {set : SortedSet Element}
    {element : Element} :
    element ∈ set.filter keep ↔ element ∈ set ∧ keep element = true := by
  simp [mem_def, filter]

theorem ext
    [StrictTotal Element]
    {first second : SortedSet Element}
    (sameElements : ∀ element, element ∈ first ↔ element ∈ second) :
    first = second := by
  obtain ⟨firstList, firstIncreasing⟩ := first
  obtain ⟨secondList, secondIncreasing⟩ := second
  refine ext_toList ?_
  induction firstList generalizing secondList with
  | nil =>
      cases secondList with
      | nil => rfl
      | cons head tail => exact absurd ((sameElements head).mpr (.head tail)) (by simp [mem_def])
  | cons firstHead firstTail inductionHypothesis =>
      cases secondList with
      | nil => exact absurd ((sameElements firstHead).mp (.head firstTail)) (by simp [mem_def])
      | cons secondHead secondTail =>
          obtain ⟨firstLeast, firstTailIncreasing⟩ := List.pairwise_cons.mp firstIncreasing
          obtain ⟨secondLeast, secondTailIncreasing⟩ := List.pairwise_cons.mp secondIncreasing
          have headsEqual : firstHead = secondHead := by
            rcases List.mem_cons.mp ((sameElements firstHead).mp (.head firstTail)) with
              same | inSecond
            · exact same
            · rcases List.mem_cons.mp ((sameElements secondHead).mpr (.head secondTail)) with
                same | inFirst
              · exact same.symm
              · exact absurd (firstLeast _ inFirst) (StrictTotal.asymm (secondLeast _ inSecond))
          subst headsEqual
          refine congrArg (List.cons firstHead) (inductionHypothesis firstTailIncreasing secondTail
            secondTailIncreasing ?_)
          intro element
          have same := sameElements element
          simp only [mem_def, List.mem_cons] at same ⊢
          constructor
          · intro inFirst
            rcases same.mp (.inr inFirst) with isHead | inSecond
            · exact absurd (isHead ▸ firstLeast _ inFirst) (StrictTotal.irrefl _)
            · exact inSecond
          · intro inSecond
            rcases same.mpr (.inr inSecond) with isHead | inFirst
            · exact absurd (isHead ▸ secondLeast _ inSecond) (StrictTotal.irrefl _)
            · exact inFirst

end Order

variable {Element : Type} [LT Element] [DecidableLT Element]

/-- Put an element into an increasing list, at its place, unless it is there already. -/
def place (element : Element) : List Element → List Element
  | [] => [element]
  | first :: rest =>
      if element < first then
        element :: first :: rest
      else if first < element then
        first :: place element rest
      else
        first :: rest

variable [StrictTotal Element]

/-- Placing adds the element and nothing else. -/
theorem mem_place
    {element other : Element}
    {elements : List Element} :
    other ∈ place element elements ↔ other = element ∨ other ∈ elements := by
  induction elements with
  | nil => simp [place]
  | cons first rest inductionHypothesis =>
      unfold place
      split
      · simp
      · split
        · simp only [List.mem_cons, inductionHypothesis]
          constructor
          · rintro (same | same | inRest)
            · exact .inr (.inl same)
            · exact .inl same
            · exact .inr (.inr inRest)
          · rintro (same | same | inRest)
            · exact .inr (.inl same)
            · exact .inl same
            · exact .inr (.inr inRest)
        · rename_i notBefore notAfter
          have same := StrictTotal.connected notBefore notAfter
          subst same
          simp

theorem pairwise_place
    {element : Element}
    {elements : List Element}
    (increasing : elements.Pairwise (· < ·)) :
    (place element elements).Pairwise (· < ·) := by
  induction elements with
  | nil => simp [place]
  | cons first rest inductionHypothesis =>
      obtain ⟨firstLeast, restIncreasing⟩ := List.pairwise_cons.mp increasing
      unfold place
      split
      · rename_i before
        refine List.pairwise_cons.mpr ⟨?_, increasing⟩
        intro other member
        rcases List.mem_cons.mp member with same | inRest
        · exact same ▸ before
        · exact StrictTotal.trans before (firstLeast other inRest)
      · split
        · rename_i after
          refine List.pairwise_cons.mpr ⟨?_, inductionHypothesis restIncreasing⟩
          intro other member
          rcases mem_place.mp member with same | inRest
          · exact same ▸ after
          · exact firstLeast other inRest
        · exact increasing

/-- The set with one more element. -/
def insert (element : Element) (set : SortedSet Element) : SortedSet Element :=
  ⟨place element set.toList, pairwise_place set.increasing⟩

@[simp]
theorem mem_insert
    {element other : Element}
    {set : SortedSet Element} :
    other ∈ set.insert element ↔ other = element ∨ other ∈ set :=
  mem_place

/-- The set with every element of a list added. -/
def insertAll (elements : List Element) (set : SortedSet Element) : SortedSet Element :=
  elements.foldl (fun grown element => grown.insert element) set

@[simp]
theorem mem_insertAll
    {elements : List Element}
    {set : SortedSet Element}
    {other : Element} :
    other ∈ set.insertAll elements ↔ other ∈ elements ∨ other ∈ set := by
  induction elements generalizing set with
  | nil => simp [insertAll]
  | cons first rest inductionHypothesis =>
      have step : set.insertAll (first :: rest) = (set.insert first).insertAll rest := rfl
      rw [step, inductionHypothesis, mem_insert, List.mem_cons]
      constructor
      · rintro (inRest | same | inSet)
        · exact .inl (.inr inRest)
        · exact .inl (.inl same)
        · exact .inr inSet
      · rintro ((same | inRest) | inSet)
        · exact .inr (.inl same)
        · exact .inl inRest
        · exact .inr (.inr inSet)

/-- The set of the elements of a list. -/
def ofList (elements : List Element) : SortedSet Element := empty.insertAll elements

@[simp]
theorem mem_ofList
    {elements : List Element}
    {element : Element} :
    element ∈ ofList elements ↔ element ∈ elements := by
  simp [ofList]

/-- The elements of either set. -/
def union (first second : SortedSet Element) : SortedSet Element := first.insertAll second.toList

@[simp]
theorem mem_union
    {first second : SortedSet Element}
    {element : Element} :
    element ∈ first.union second ↔ element ∈ first ∨ element ∈ second := by
  rw [union, mem_insertAll, or_comm]
  rfl

end SortedSet

end Dataflow
