import Dataflow.Candidate.BranchPlan

namespace Dataflow

/-!
# Merging branch plans

Branch plans can be merged exactly when they agree on every branching node that two of them mention, and
the merged plan then holds the choices of all of them.
-/

namespace SortedMap

variable {Key Entry : Type} [LT Key] [StrictTotal Key] [BEq Key] [LawfulBEq Key]

theorem mem_entries_iff_get?
    {map : SortedMap Key Entry}
    {key : Key}
    {entry : Entry} :
    (key, entry) ∈ map.entries ↔ map.get? key = some entry := by
  obtain ⟨entries, increasing⟩ := map
  show (key, entry) ∈ entries ↔ entries.lookup key = some entry
  induction entries with
  | nil => simp
  | cons first rest inductionHypothesis =>
      obtain ⟨firstKey, firstEntry⟩ := first
      obtain ⟨firstLeast, restIncreasing⟩ := List.pairwise_cons.mp increasing
      rw [List.mem_cons, List.lookup_cons, inductionHypothesis restIncreasing]
      by_cases sameKey : key = firstKey
      · subst sameKey
        have notInRest : rest.lookup key ≠ some entry := by
          intro found
          have member := (inductionHypothesis restIncreasing).mpr found
          exact StrictTotal.irrefl key (firstLeast _ member)
        simp [notInRest, eq_comm]
      · simp [beq_false_of_ne sameKey, sameKey]

/-- Dropping a key that has no entry changes nothing. -/
theorem filterKeys_eq_self
    {map : SortedMap Key Entry}
    {keep : Key → Bool}
    (nothingDropped : ∀ key, keep key = false → map.get? key = none) :
    map.filterKeys keep = map := by
  apply ext_entries
  apply List.filter_eq_self.mpr
  rintro ⟨key, entry⟩ isEntry
  have found := mem_entries_iff_get?.mp isEntry
  cases kept : keep key with
  | true => rfl
  | false => simp [nothingDropped key kept] at found

variable [DecidableLT Key]

omit [BEq Key] [LawfulBEq Key] in
/-- An insertion under a key that is dropped is undone. -/
theorem filterKeys_insert
    {map : SortedMap Key Entry}
    {keep : Key → Bool}
    {key : Key}
    {entry : Entry}
    (dropped : keep key = false) :
    (map.insert key entry).filterKeys keep = map.filterKeys keep := by
  obtain ⟨entries, increasing⟩ := map
  apply ext_entries
  show (place key entry entries).filter (fun pair => keep pair.1) = entries.filter fun pair => keep pair.1
  clear increasing
  induction entries with
  | nil => simp [place, dropped]
  | cons first rest inductionHypothesis =>
      unfold place
      split
      · simp [dropped]
      · split
        · rw [List.filter_cons, List.filter_cons, inductionHypothesis]
        · rename_i notBefore notAfter
          have same : key = first.1 := StrictTotal.connected notBefore notAfter
          rw [List.filter_cons_of_neg (by simp [dropped]),
            List.filter_cons_of_neg (by simp [← same, dropped])]

end SortedMap

namespace BranchPlan

theorem choose?_eq_some_iff
    {plan grown : BranchPlan}
    {choice : Nat × Nat} :
    plan.choose? choice = some grown ↔
      (∀ earlier, plan.get? choice.1 = some earlier → earlier = choice.2) ∧
        plan.insert choice.1 choice.2 = grown := by
  unfold choose?
  cases plan.get? choice.1 with
  | none => simp
  | some earlier =>
      by_cases same : earlier = choice.2 <;> simp [same]

/-- A choice is known from a plan or from a list of further choices. -/
def Known (plan : BranchPlan) (choices : List (Nat × Nat)) (branch candidate : Nat) : Prop :=
  plan.get? branch = some candidate ∨ (branch, candidate) ∈ choices

theorem get?_choose?
    {plan grown : BranchPlan}
    {choice : Nat × Nat}
    (chosen : plan.choose? choice = some grown)
    {branch candidate : Nat} :
    grown.get? branch = some candidate ↔ plan.Known [choice] branch candidate := by
  obtain ⟨compatible, rfl⟩ := choose?_eq_some_iff.mp chosen
  obtain ⟨choiceBranch, choiceCandidate⟩ := choice
  rw [SortedMap.get?_insert]
  by_cases sameBranch : branch = choiceBranch
  · subst sameBranch
    simp only [Known, beq_self_eq_true, if_true, Option.some.injEq, List.mem_singleton, Prod.mk.injEq,
      true_and]
    constructor
    · exact fun same => .inr same.symm
    · rintro (earlier | same)
      · exact (compatible candidate earlier).symm
      · exact same.symm
  · simp [Known, sameBranch]

theorem get?_foldlM_choose?
    {choices : List (Nat × Nat)}
    {plan merged : BranchPlan}
    (folded : choices.foldlM choose? plan = some merged)
    {branch candidate : Nat} :
    merged.get? branch = some candidate ↔ plan.Known choices branch candidate := by
  induction choices generalizing plan with
  | nil =>
      obtain rfl : plan = merged := by simpa using folded
      simp [Known]
  | cons choice rest inductionHypothesis =>
      obtain ⟨grown, chosen, foldedRest⟩ : ∃ grown, plan.choose? choice = some grown ∧
          rest.foldlM choose? grown = some merged := by
        simpa [List.foldlM_cons, Option.bind_eq_some_iff] using folded
      rw [inductionHypothesis foldedRest]
      unfold Known
      rw [get?_choose? chosen]
      simp [Known, or_assoc]

theorem exists_foldlM_choose?
    {choices : List (Nat × Nat)}
    {plan : BranchPlan}
    (functional : ∀ branch one other,
      plan.Known choices branch one → plan.Known choices branch other → one = other) :
    ∃ merged, choices.foldlM choose? plan = some merged := by
  induction choices generalizing plan with
  | nil => exact ⟨plan, rfl⟩
  | cons choice rest inductionHypothesis =>
      have compatible : ∀ earlier, plan.get? choice.1 = some earlier → earlier = choice.2 :=
        fun earlier found => functional choice.1 earlier choice.2 (.inl found) (.inr (.head rest))
      have chosen := choose?_eq_some_iff.mpr ⟨compatible, rfl⟩
      have knownBefore : ∀ branch candidate,
          Known (plan.insert choice.1 choice.2) rest branch candidate →
            plan.Known (choice :: rest) branch candidate := by
        rintro branch candidate (found | inRest)
        · rcases (get?_choose? chosen).mp found with earlier | isChoice
          · exact .inl earlier
          · exact .inr (by simp_all)
        · exact .inr (.tail choice inRest)
      obtain ⟨merged, folded⟩ := inductionHypothesis fun branch one other knowsOne knowsOther =>
        functional branch one other (knownBefore branch one knowsOne) (knownBefore branch other knowsOther)
      exact ⟨merged, by simp [List.foldlM_cons, chosen, folded]⟩

/-- No two of the plans make different choices for a branching node. -/
def Agree (plans : List BranchPlan) : Prop :=
  ∀ first ∈ plans, ∀ second ∈ plans, ∀ branch one other,
    first.get? branch = some one → second.get? branch = some other → one = other

theorem merge?_eq_foldlM_flatMap (plans : List BranchPlan) (start : BranchPlan) :
    plans.foldlM (fun merged plan => plan.entries.foldlM choose? merged) start =
      (plans.flatMap SortedMap.entries).foldlM choose? start := by
  induction plans generalizing start with
  | nil => rfl
  | cons plan rest inductionHypothesis =>
      rw [List.foldlM_cons, List.flatMap_cons, List.foldlM_append]
      congr 1
      funext grown
      exact inductionHypothesis grown

theorem known_flatMap_iff
    {plans : List BranchPlan}
    {branch candidate : Nat} :
    Known .empty (plans.flatMap SortedMap.entries) branch candidate ↔
      ∃ plan ∈ plans, plan.get? branch = some candidate := by
  simp [Known, SortedMap.mem_entries_iff_get?]

/-- The merged plan holds the choices of all plans. -/
theorem get?_merge?
    {plans : List BranchPlan}
    {merged : BranchPlan}
    (isMerged : merge? plans = some merged)
    {branch candidate : Nat} :
    merged.get? branch = some candidate ↔ ∃ plan ∈ plans, plan.get? branch = some candidate := by
  rw [merge?, merge?_eq_foldlM_flatMap] at isMerged
  rw [get?_foldlM_choose? isMerged, known_flatMap_iff]

/-- Plans can be merged when they agree, and only then. -/
theorem isSome_merge?_iff_agree
    {plans : List BranchPlan} :
    (merge? plans).isSome = true ↔ Agree plans := by
  rw [Option.isSome_iff_exists]
  constructor
  · rintro ⟨merged, isMerged⟩ first isFirst second isSecond branch one other foundOne foundOther
    have mergedOne := (get?_merge? isMerged).mpr ⟨first, isFirst, foundOne⟩
    have mergedOther := (get?_merge? isMerged).mpr ⟨second, isSecond, foundOther⟩
    exact Option.some.inj (mergedOne.symm.trans mergedOther)
  · intro agree
    rw [merge?, merge?_eq_foldlM_flatMap]
    apply exists_foldlM_choose?
    intro branch one other knowsOne knowsOther
    obtain ⟨first, isFirst, foundOne⟩ := known_flatMap_iff.mp knowsOne
    obtain ⟨second, isSecond, foundOther⟩ := known_flatMap_iff.mp knowsOther
    exact agree first isFirst second isSecond branch one other foundOne foundOther

end BranchPlan

end Dataflow
