import Dataflow.Search.Combinations

namespace Dataflow

/-!
# Choosing from several lists

A combination has one element of each list, in the order of the lists.  Where each list holds the options
of a node, choosing one option for each node makes a combination, and every combination is such a choice.
-/

/-- A combination has an element of each list, at the position of the list. -/
theorem mem_combinations_iff
    {Item : Type}
    {lists : List (List Item)}
    {chosen : List Item} :
    chosen ∈ combinations lists ↔
      chosen.length = lists.length ∧
        ∀ (position : Nat) (item : Item) (options : List Item),
          chosen[position]? = some item → lists[position]? = some options → item ∈ options := by
  induction lists generalizing chosen with
  | nil => simp
  | cons first rest inductionHypothesis =>
      rw [mem_combinations_cons]
      constructor
      · rintro ⟨option, isOption, others, inRest, rfl⟩
        obtain ⟨sameLength, eachElement⟩ := inductionHypothesis.mp inRest
        refine ⟨by simp [sameLength], ?_⟩
        intro position item options
        cases position with
        | zero =>
            rintro isItem isOptions
            simp only [List.getElem?_cons_zero, Option.some.injEq] at isItem isOptions
            exact isItem ▸ isOptions ▸ isOption
        | succ position => simpa using eachElement position item options
      · rintro ⟨sameLength, eachElement⟩
        cases chosen with
        | nil => exact absurd sameLength (by simp)
        | cons option others =>
            refine ⟨option, eachElement 0 option first rfl rfl, others, ?_, rfl⟩
            refine inductionHypothesis.mpr ⟨by simpa using sameLength, ?_⟩
            intro position item options isItem isOptions
            exact eachElement (position + 1) item options (by simpa using isItem) (by simpa using isOptions)

theorem exists_mem_combinations
    {Item : Type}
    {lists : List (List Item)}
    (each : ∀ options ∈ lists, ∃ item, item ∈ options) :
    ∃ chosen, chosen ∈ combinations lists := by
  induction lists with
  | nil => exact ⟨[], by simp⟩
  | cons options rest inductionHypothesis =>
      obtain ⟨item, isOption⟩ := each options (.head _)
      obtain ⟨others, inRest⟩ := inductionHypothesis fun list isList => each list (.tail _ isList)
      exact ⟨item :: others, mem_combinations_cons.mpr ⟨item, isOption, others, inRest, rfl⟩⟩

theorem combinations_map_map
    {Item Image : Type}
    {image : Item → Image}
    {lists : List (List Item)} :
    combinations (lists.map (List.map image)) = (combinations lists).map (List.map image) := by
  induction lists with
  | nil => rfl
  | cons options rest inductionHypothesis =>
      simp only [List.map_cons, combinations, inductionHypothesis, List.flatMap_map, List.map_flatMap,
        List.map_map]
      rfl

theorem combinations_map_filter
    {Item : Type}
    {keep : Item → Bool}
    {lists : List (List Item)} :
    combinations (lists.map (List.filter keep)) =
      (combinations lists).filter fun chosen => chosen.all keep := by
  induction lists with
  | nil => rfl
  | cons options rest inductionHypothesis =>
      rw [List.map_cons, combinations, combinations, inductionHypothesis]
      generalize combinations rest = others
      induction options with
      | nil => rfl
      | cons option further inductionHypothesis =>
          rw [List.flatMap_cons, List.filter_append, ← inductionHypothesis, List.filter_map]
          cases kept : keep option with
          | true => simp [kept, Function.comp_def]
          | false => simp [kept, Function.comp_def]

/-- Keeping items keeps their results, when each result tells whether its item is kept. -/
theorem flatMap_filter_eq
    {Item Result : Type}
    {results : Item → List Result}
    {keep : Item → Bool}
    {keepResult : Result → Bool}
    {items : List Item}
    (tells : ∀ item ∈ items, ∀ result ∈ results item, keepResult result = keep item) :
    (items.filter keep).flatMap results = (items.flatMap results).filter keepResult := by
  induction items with
  | nil => rfl
  | cons item rest inductionHypothesis =>
      rw [List.flatMap_cons, List.filter_append,
        ← inductionHypothesis fun other isOther => tells other (.tail _ isOther)]
      have ofItem := tells item (.head _)
      cases kept : keep item with
      | true =>
          have allKept : (results item).filter keepResult = results item :=
            List.filter_eq_self.mpr fun result isResult => (ofItem result isResult).trans kept
          simp [kept, allKept]
      | false =>
          have noneKept : (results item).filter keepResult = [] :=
            List.filter_eq_nil_iff.mpr fun result isResult => by simp [ofItem result isResult, kept]
          simp [kept, noneKept]

section Options

variable {Node Item Result : Type} {nodes : List Node} {options : Node → List Item} {chosen : List Item}

/-- A choice from the options of some nodes takes one from each of them, and takes nothing else. -/
theorem mem_of_mem_combinations_map
    (isChoice : chosen ∈ combinations (nodes.map options)) :
    (∀ item ∈ chosen, ∃ node ∈ nodes, item ∈ options node) ∧
      ∀ node ∈ nodes, ∃ item ∈ chosen, item ∈ options node := by
  induction nodes generalizing chosen with
  | nil => simp_all
  | cons node rest inductionHypothesis =>
      rw [List.map_cons, mem_combinations_cons] at isChoice
      obtain ⟨item, isOption, others, inRest, rfl⟩ := isChoice
      obtain ⟨eachChosen, eachNode⟩ := inductionHypothesis inRest
      constructor
      · intro other isOther
        rcases List.mem_cons.mp isOther with rfl | inOthers
        · exact ⟨node, .head _, isOption⟩
        · obtain ⟨another, isNode, isThere⟩ := eachChosen other inOthers
          exact ⟨another, .tail _ isNode, isThere⟩
      · intro another isNode
        rcases List.mem_cons.mp isNode with rfl | inRest
        · exact ⟨item, .head _, isOption⟩
        · obtain ⟨other, isOther, isThere⟩ := eachNode another inRest
          exact ⟨other, .tail _ isOther, isThere⟩

theorem map_mem_combinations
    {choice : Node → Item}
    (each : ∀ node ∈ nodes, choice node ∈ options node) :
    nodes.map choice ∈ combinations (nodes.map options) := by
  induction nodes with
  | nil => simp
  | cons node rest inductionHypothesis =>
      rw [List.map_cons, List.map_cons, mem_combinations_cons]
      exact ⟨choice node, each node (.head _), rest.map choice,
        inductionHypothesis fun other isOther => each other (.tail _ isOther), rfl⟩

/-- What is the same for an option and its node is the same for a combination and the nodes. -/
theorem map_eq_map_of_mem_combinations
    {ofItem : Item → Result}
    {ofNode : Node → Result}
    (isChoice : chosen ∈ combinations (nodes.map options))
    (each : ∀ node ∈ nodes, ∀ item ∈ options node, item ∈ chosen → ofItem item = ofNode node) :
    chosen.map ofItem = nodes.map ofNode := by
  induction nodes generalizing chosen with
  | nil =>
      obtain rfl : chosen = [] := by simpa using isChoice
      rfl
  | cons node rest inductionHypothesis =>
      rw [List.map_cons, mem_combinations_cons] at isChoice
      obtain ⟨item, isOption, others, inRest, rfl⟩ := isChoice
      rw [List.map_cons, List.map_cons, each node (.head _) item isOption (.head _)]
      rw [inductionHypothesis inRest fun other isOther another isAnother inOthers =>
        each other (.tail _ isOther) another isAnother (.tail _ inOthers)]

end Options

end Dataflow
