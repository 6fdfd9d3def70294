namespace Dataflow

/-!
# Combinations

All ways to take one element of each list, in lexicographic order: the choice from the last list changes
fastest.  There is one combination of no lists at all, and none if a list is empty.
-/

/-- Every list with one element of each of the given lists. -/
def combinations {Item : Type} : List (List Item) → List (List Item)
  | [] => [[]]
  | options :: rest =>
      let others := combinations rest
      options.flatMap fun option => others.map fun chosen => option :: chosen

@[simp]
theorem mem_combinations_nil
    {Item : Type}
    {chosen : List Item} :
    chosen ∈ combinations [] ↔ chosen = [] := by
  simp [combinations]

/-- A combination starts with an element of the first list and goes on with a combination of the rest. -/
@[simp]
theorem mem_combinations_cons
    {Item : Type}
    {options : List Item}
    {rest : List (List Item)}
    {chosen : List Item} :
    chosen ∈ combinations (options :: rest) ↔
      ∃ option ∈ options, ∃ others ∈ combinations rest, option :: others = chosen := by
  simp [combinations]

theorem length_of_mem_combinations
    {Item : Type}
    {lists : List (List Item)}
    {chosen : List Item}
    (member : chosen ∈ combinations lists) :
    chosen.length = lists.length := by
  induction lists generalizing chosen with
  | nil => simp_all
  | cons options rest inductionHypothesis =>
      obtain ⟨option, _, others, inRest, same⟩ := mem_combinations_cons.mp member
      subst same
      simp [inductionHypothesis inRest]

end Dataflow
