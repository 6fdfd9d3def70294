import Dataflow.Proofs.Candidate.Domination
import Dataflow.Proofs.Search.Selection

namespace Dataflow

/-!
# The first cheapest choice

Choices are enumerated in the lexicographic order of the positions that they take from the lists.  Of the
consistent ones that cost least, the first in this order is selected.
-/

/-- A choice takes one item from each list, each at the position that is given for its list. -/
inductive Picks {Item : Type} : List (List Item) → List Nat → List Item → Prop
  | nil : Picks [] [] []
  | cons
      {options : List Item}
      {rest : List (List Item)}
      {position : Nat}
      {positions : List Nat}
      {item : Item}
      {chosen : List Item} :
      options[position]? = some item →
      Picks rest positions chosen →
      Picks (options :: rest) (position :: positions) (item :: chosen)

section Positions

variable {Item : Type} {lists : List (List Item)} {positions : List Nat} {chosen : List Item}

theorem Picks.eq
    {other : List Item}
    (picks : Picks lists positions chosen)
    (picksToo : Picks lists positions other) :
    chosen = other := by
  induction picks generalizing other with
  | nil =>
      cases picksToo
      rfl
  | cons isItem _ inductionHypothesis =>
      cases picksToo with
      | cons isItemToo picksToo =>
          rw [Option.some.inj (isItem.symm.trans isItemToo), inductionHypothesis picksToo]

/-- Choices are the combinations of items that are numbered by their positions. -/
theorem picks_iff :
    Picks lists positions chosen ↔
      ∃ numbered ∈ combinations (lists.map fun options => options.zipIdx),
        numbered.map Prod.fst = chosen ∧ numbered.map Prod.snd = positions := by
  induction lists generalizing positions chosen with
  | nil =>
      constructor
      · rintro ⟨⟩
        exact ⟨[], by simp, rfl, rfl⟩
      · rintro ⟨numbered, isChoice, rfl, rfl⟩
        obtain rfl : numbered = [] := by simpa using isChoice
        exact .nil
  | cons options rest inductionHypothesis =>
      rw [List.map_cons]
      constructor
      · intro picks
        cases picks with
        | @cons _ _ position _ item _ isItem picksRest =>
            obtain ⟨numbered, inRest, rfl, rfl⟩ := inductionHypothesis.mp picksRest
            have isNumbered : (item, position) ∈ options.zipIdx := List.mem_zipIdx_iff_getElem?.mpr isItem
            exact ⟨_ :: numbered, mem_combinations_cons.mpr ⟨_, isNumbered, numbered, inRest, rfl⟩, rfl, rfl⟩
      · rintro ⟨numbered, isChoice, rfl, rfl⟩
        obtain ⟨item, isItem, others, inRest, rfl⟩ := mem_combinations_cons.mp isChoice
        exact .cons (List.mem_zipIdx_iff_getElem?.mp isItem) (inductionHypothesis.mpr ⟨others, inRest, rfl, rfl⟩)

/-- Combinations of lists that are ordered by a key are ordered lexicographically by it. -/
theorem pairwise_combinations
    {key : Item → Nat}
    (ordered : ∀ options ∈ lists, options.Pairwise fun first second => key first < key second) :
    (combinations lists).Pairwise fun first second => first.map key < second.map key := by
  induction lists with
  | nil => simp [combinations]
  | cons options rest inductionHypothesis =>
      obtain ⟨optionsOrdered, restOrdered⟩ := List.forall_mem_cons.mp ordered
      rw [combinations, List.pairwise_flatMap]
      constructor
      · intro option _
        rw [List.pairwise_map]
        exact (inductionHypothesis restOrdered).imp fun before => List.cons_lt_cons_iff.mpr (.inr ⟨rfl, before⟩)
      · refine optionsOrdered.imp fun before => ?_
        simp only [List.forall_mem_map, List.map_cons]
        exact fun _ _ _ _ => List.cons_lt_cons_iff.mpr (.inl before)

theorem pairwise_positions :
    (combinations (lists.map fun options => options.zipIdx)).Pairwise fun first second =>
      first.map Prod.snd < second.map Prod.snd := by
  apply pairwise_combinations
  rw [List.forall_mem_map]
  intro options _
  rw [← List.pairwise_map, List.zipIdx_map_snd]
  exact List.pairwise_lt_range'

end Positions

variable {Number : Type} [Arithmetic Number]

section Least

variable [TotallyCompared Number] {Item : Type} {cost : Item → Number}

/-- What is compared with all items in turn is below all that come before it. -/
theorem exists_foldl_cheaper
    {first : Item}
    {rest : List Item}
    (defined : ∀ item ∈ rest, Arithmetic.isUndefined (cost item) = false) :
    ∃ earlier later, first :: rest = earlier ++ rest.foldl (cheaper cost) first :: later ∧
      ∀ other ∈ earlier, cost (rest.foldl (cheaper cost) first) < cost other := by
  induction rest generalizing first with
  | nil => exact ⟨[], [], rfl, by simp⟩
  | cons second further inductionHypothesis =>
      obtain ⟨secondDefined, furtherDefined⟩ := List.forall_mem_cons.mp defined
      rw [List.foldl_cons]
      by_cases less : cost second < cost first
      · have isSecond : cheaper cost first second = second := if_pos less
        obtain ⟨earlier, later, same, below⟩ := @inductionHypothesis second furtherDefined
        rw [isSecond]
        generalize further.foldl (cheaper cost) second = least at *
        refine ⟨first :: earlier, later, by rw [same, List.cons_append], ?_⟩
        refine List.forall_mem_cons.mpr ⟨?_, below⟩
        -- The least item is the second one or below it, and this is below the first one.
        cases earlier with
        | nil =>
            obtain ⟨rfl, _⟩ := List.cons.inj same
            exact less
        | cons head others =>
            obtain ⟨rfl, _⟩ := List.cons.inj same
            exact StrictlyCompared.trans (below _ (.head _)) less
      · have isFirst : cheaper cost first second = first := if_neg less
        obtain ⟨earlier, later, same, below⟩ := @inductionHypothesis first furtherDefined
        rw [isFirst]
        generalize further.foldl (cheaper cost) first = least at *
        cases earlier with
        | nil =>
            obtain ⟨rfl, rfl⟩ := List.cons.inj same
            exact ⟨[], second :: further, rfl, by simp⟩
        | cons head others =>
            obtain ⟨rfl, rfl⟩ := List.cons.inj same
            obtain ⟨belowFirst, belowOthers⟩ := List.forall_mem_cons.mp below
            refine ⟨first :: second :: others, later, rfl, ?_⟩
            have belowSecond := TotallyCompared.lt_of_lt_of_not_lt secondDefined belowFirst less
            exact List.forall_mem_cons.mpr ⟨belowFirst, List.forall_mem_cons.mpr ⟨belowSecond, belowOthers⟩⟩

theorem exists_of_firstLeast
    {items : List Item}
    (defined : ∀ item ∈ items, Arithmetic.isUndefined (cost item) = false)
    {least : Item}
    (found : firstLeast cost items = some least) :
    ∃ earlier later, items = earlier ++ least :: later ∧ ∀ other ∈ earlier, cost least < cost other := by
  cases items with
  | nil => exact absurd found (by simp [firstLeast])
  | cons first rest =>
      obtain rfl := Option.some.inj found
      exact exists_foldl_cheaper (List.forall_mem_cons.mp defined).2

end Least

/--
The choice is the first one, in the order of positions, of the consistent choices for the sinks whose total
cost is least.
-/
structure FirstCheapest
    (weights : Weights Number)
    (sinks : List (List (Candidate Number)))
    (positions : List Nat)
    (chosen : List (Candidate Number)) : Prop where
  picks : Picks sinks positions chosen
  consistent : areConsistent chosen = true
  notDearer : ∀ otherPositions other, Picks sinks otherPositions other → areConsistent other = true →
    ¬ totalWeightedCost weights other < totalWeightedCost weights chosen
  cheaperThanEarlier : ∀ otherPositions other, Picks sinks otherPositions other → areConsistent other = true →
    otherPositions < positions → totalWeightedCost weights chosen < totalWeightedCost weights other

variable {weights : Weights Number} {sinks : List (List (Candidate Number))}

/-- There is only one such choice. -/
theorem FirstCheapest.eq
    {positions otherPositions : List Nat}
    {chosen other : List (Candidate Number)}
    (first : FirstCheapest weights sinks positions chosen)
    (firstToo : FirstCheapest weights sinks otherPositions other) :
    chosen = other := by
  have notBefore : ¬ positions < otherPositions := fun before =>
    first.notDearer _ _ firstToo.picks firstToo.consistent <|
      firstToo.cheaperThanEarlier _ _ first.picks first.consistent before
  have notAfter : ¬ otherPositions < positions := fun after =>
    firstToo.notDearer _ _ first.picks first.consistent <|
      first.cheaperThanEarlier _ _ firstToo.picks firstToo.consistent after
  obtain rfl := StrictTotal.connected notBefore notAfter
  exact first.picks.eq firstToo.picks

/-- The consistent choices, whose candidates are numbered by their positions. -/
def numberedChoices (sinks : List (List (Candidate Number))) : List (List (Candidate Number × Nat)) :=
  (combinations (sinks.map fun options => options.zipIdx)).filter fun numbered =>
    areConsistent (numbered.map Prod.fst)

omit [Arithmetic Number] in
theorem exists_mem_numberedChoices_iff
    {positions : List Nat}
    {chosen : List (Candidate Number)} :
    (∃ numbered ∈ numberedChoices sinks,
        numbered.map Prod.fst = chosen ∧ numbered.map Prod.snd = positions) ↔
      Picks sinks positions chosen ∧ areConsistent chosen = true := by
  rw [picks_iff]
  constructor
  · rintro ⟨numbered, isThere, rfl, rfl⟩
    obtain ⟨isChoice, consistent⟩ := List.mem_filter.mp isThere
    exact ⟨⟨numbered, isChoice, rfl, rfl⟩, consistent⟩
  · rintro ⟨⟨numbered, isChoice, rfl, rfl⟩, consistent⟩
    exact ⟨numbered, List.mem_filter.mpr ⟨isChoice, consistent⟩, rfl, rfl⟩

theorem selectSinks_eq_map :
    selectSinks weights sinks =
      (firstLeast (fun numbered => totalWeightedCost weights (numbered.map Prod.fst))
        (numberedChoices sinks)).map (List.map Prod.fst) := by
  have withoutNumbers : combinations sinks =
      (combinations (sinks.map fun options => options.zipIdx)).map (List.map Prod.fst) := by
    rw [← combinations_map_map, List.map_map]
    simp [Function.comp_def]
  rw [selectSinks, withoutNumbers, List.filter_map, firstLeast_map]
  rfl

theorem exists_firstCheapest
    [TotallyCompared Number]
    (defined : ∀ positions chosen, Picks sinks positions chosen → areConsistent chosen = true →
      Arithmetic.isUndefined (totalWeightedCost weights chosen) = false)
    {chosen : List (Candidate Number)}
    (selected : selectSinks weights sinks = some chosen) :
    ∃ positions, FirstCheapest weights sinks positions chosen := by
  rw [selectSinks_eq_map, Option.map_eq_some_iff] at selected
  obtain ⟨least, found, rfl⟩ := selected
  have picks : ∀ numbered ∈ numberedChoices sinks,
      Picks sinks (numbered.map Prod.snd) (numbered.map Prod.fst) ∧
        areConsistent (numbered.map Prod.fst) = true :=
    fun numbered isThere => exists_mem_numberedChoices_iff.mp ⟨numbered, isThere, rfl, rfl⟩
  obtain ⟨earlier, later, same, below⟩ := exists_of_firstLeast
    (fun numbered isThere => defined _ _ (picks numbered isThere).1 (picks numbered isThere).2) found
  have ordered : (earlier ++ least :: later).Pairwise fun first second =>
      first.map Prod.snd < second.map Prod.snd := same ▸ pairwise_positions.filter _
  obtain ⟨_, leastFirst, _⟩ := List.pairwise_append.mp ordered
  obtain ⟨isPicked, consistent⟩ := picks least (mem_of_firstLeast found)
  refine ⟨_, isPicked, consistent, ?_, ?_⟩
  · intro otherPositions other otherPicked otherConsistent
    obtain ⟨numbered, isThere, rfl, rfl⟩ := exists_mem_numberedChoices_iff.mpr ⟨otherPicked, otherConsistent⟩
    have notBelow := not_lt_of_firstLeast found isThere
    exact notBelow
  · intro otherPositions other otherPicked otherConsistent before
    obtain ⟨numbered, isThere, rfl, rfl⟩ := exists_mem_numberedChoices_iff.mpr ⟨otherPicked, otherConsistent⟩
    rw [same, List.mem_append, List.mem_cons] at isThere
    rcases isThere with isEarlier | rfl | isLater
    · exact below numbered isEarlier
    · exact absurd before (StrictTotal.irrefl _)
    · exact absurd before (StrictTotal.asymm ((List.pairwise_cons.mp leastFirst).1 numbered isLater))

/-- Nothing is selected only where no choice is consistent. -/
theorem selectSinks_eq_none_iff :
    selectSinks weights sinks = none ↔
      ∀ positions chosen, Picks sinks positions chosen → areConsistent chosen = false := by
  rw [selectSinks_eq_map, Option.map_eq_none_iff, firstLeast_eq_none_iff, List.eq_nil_iff_forall_not_mem]
  constructor
  · intro noChoice positions chosen isPicked
    cases consistent : areConsistent chosen with
    | false => rfl
    | true =>
        obtain ⟨numbered, isThere, _⟩ := exists_mem_numberedChoices_iff.mpr ⟨isPicked, consistent⟩
        exact absurd isThere (noChoice numbered)
  · intro inconsistent numbered isThere
    obtain ⟨isPicked, consistent⟩ := exists_mem_numberedChoices_iff.mp ⟨numbered, isThere, rfl, rfl⟩
    exact absurd (consistent.symm.trans (inconsistent _ _ isPicked)) (by decide)

/--
A choice for the sinks is selected if some choice is consistent, and then it is the first one of the cheapest
consistent choices.
-/
theorem selectSinks_firstCheapest
    [TotallyCompared Number]
    (weights : Weights Number)
    (sinks : List (List (Candidate Number)))
    (defined : ∀ positions chosen, Picks sinks positions chosen → areConsistent chosen = true →
      Arithmetic.isUndefined (totalWeightedCost weights chosen) = false) :
    (selectSinks weights sinks = none ↔
        ∀ positions chosen, Picks sinks positions chosen → areConsistent chosen = false) ∧
      ∀ chosen, selectSinks weights sinks = some chosen ↔
        ∃ positions, FirstCheapest weights sinks positions chosen := by
  refine ⟨selectSinks_eq_none_iff, fun chosen => ⟨exists_firstCheapest defined, ?_⟩⟩
  rintro ⟨positions, first⟩
  cases selected : selectSinks weights sinks with
  | none =>
      have inconsistent := selectSinks_eq_none_iff.mp selected positions chosen first.picks
      exact absurd (first.consistent.symm.trans inconsistent) (by decide)
  | some other =>
      obtain ⟨otherPositions, firstToo⟩ := exists_firstCheapest defined selected
      rw [first.eq firstToo]

/-- A candidate of a sink that rests on a choice for one branching node. -/
def restingScan (identifier : Nat) (work : Float) (choice : Nat) : Candidate Float :=
  { Candidate.measuredScan .random .none work with
    identifier, branchPlan := SortedMap.empty.insert 7 choice }

/-- Of three consistent choices, two cost the same and one has no finite cost. -/
theorem selectSinks_firstCheapest_tied :
    let sinks := [[restingScan 0 1.0 0, restingScan 1 1.5 1],
      [restingScan 2 2.0 1, restingScan 3 (1.0 / 0.0) 0, restingScan 4 2.5 0]]
    ∃ chosen, selectSinks .default sinks = some chosen ∧ chosen.map Candidate.identifier = [0, 4] ∧
      ∃ positions, FirstCheapest .default sinks positions chosen := by
  intro sinks
  have found : (selectSinks .default sinks).map (List.map Candidate.identifier) = some [0, 4] := by
    decide +kernel
  obtain ⟨chosen, selected, identifiers⟩ := Option.map_eq_some_iff.mp found
  have defined : ∀ positions chosen, Picks sinks positions chosen → areConsistent chosen = true →
      Arithmetic.isUndefined (totalWeightedCost .default chosen) = false := by
    intro positions chosen isPicked consistent
    obtain ⟨numbered, isThere, rfl, rfl⟩ := exists_mem_numberedChoices_iff.mpr ⟨isPicked, consistent⟩
    exact (by decide +kernel : ∀ numbered ∈ numberedChoices sinks,
      Arithmetic.isUndefined (totalWeightedCost .default (numbered.map Prod.fst)) = false) numbered isThere
  have iff := (selectSinks_firstCheapest .default sinks defined).2 chosen
  exact ⟨chosen, selected, identifiers, iff.mp selected⟩

end Dataflow
