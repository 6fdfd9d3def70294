import Dataflow.Error

namespace Dataflow

/-!
# Walks that refuse a second item for a key

The nodes of a program and the candidates of a plan are both collected by going from item to item and
listing what has been met.  A key that has been met before must belong to the same item, or else the walk
fails.  It succeeds when everything that it can reach is the same wherever keys are the same, and the list
then has one item for each key.
-/

/-- A walk from an item to the next ones, all of which are smaller. -/
structure Walk (Fault Item : Type) where
  key : Item → Nat
  next : Item → List Item
  /-- Whether an item that has been met stands for one that is met later. -/
  Same : Item → Item → Prop
  step : List Item → Item → Except Fault (List Item)
  size : Item → Nat
  same_refl : ∀ item, Same item item
  size_next : ∀ {item after}, after ∈ next item → size after < size item
  /-- An item whose key has been met is either the same one or refused. -/
  step_of_met : ∀ {met item known},
    met.find? (fun other => key other == key item) = some known →
      (Same known item → step met item = .ok met) ∧ ∀ grown, step met item = .ok grown → Same known item
  step_of_new : ∀ {met item},
    met.find? (fun other => key other == key item) = none →
      step met item = (next item).foldlM step (met ++ [item])

namespace Walk

variable {Fault Item : Type} {walk : Walk Fault Item}

/-- An item with the key of the given one has been met, and stands for it. -/
def Met (walk : Walk Fault Item) (met : List Item) (item : Item) : Prop :=
  ∃ known ∈ met, walk.key known = walk.key item ∧ walk.Same known item

/-- No two of the items have the same key. -/
def Apart (walk : Walk Fault Item) (met : List Item) : Prop :=
  met.Pairwise fun first second => walk.key first ≠ walk.key second

theorem Apart.eq_of_key_eq
    {met : List Item}
    (apart : walk.Apart met)
    {first second : Item}
    (isFirst : first ∈ met)
    (isSecond : second ∈ met)
    (sameKey : walk.key first = walk.key second) :
    first = second := by
  have forward : met.Pairwise fun first second => walk.key first = walk.key second → first = second :=
    apart.imp fun different same => absurd same different
  have backward : met.Pairwise fun first second => walk.key second = walk.key first → second = first :=
    apart.imp fun different same => absurd same.symm different
  exact List.Pairwise.forall_of_forall_of_flip (fun _ _ _ => rfl) forward backward isFirst isSecond sameKey

theorem Apart.nodup
    {met : List Item}
    (apart : walk.Apart met) :
    met.Nodup :=
  apart.imp fun different same => different (congrArg walk.key same)

theorem Met.mono
    {met grown : List Item}
    {item : Item}
    (isMet : walk.Met met item)
    (kept : ∀ other ∈ met, other ∈ grown) :
    walk.Met grown item := by
  obtain ⟨known, isKnown, sameKey, same⟩ := isMet
  exact ⟨known, kept known isKnown, sameKey, same⟩

/-- A property of items that the next ones have as well. -/
def Hereditary (walk : Walk Fault Item) (Keeps : Item → Prop) : Prop :=
  ∀ item, Keeps item → ∀ after ∈ walk.next item, Keeps after

/-- What a walk from some items achieves when it does not fail. -/
structure Walked (walk : Walk Fault Item) (met grown items : List Item) : Prop where
  kept : ∀ other ∈ met, other ∈ grown
  reached : ∀ item ∈ items, walk.Met grown item
  /-- The walk goes on from all that it has newly met. -/
  closed : ∀ other ∈ grown, other ∈ met ∨ ∀ after ∈ walk.next other, walk.Met grown after
  apart : walk.Apart met → walk.Apart grown
  /-- Only what can be reached is met. -/
  within : ∀ Keeps, walk.Hereditary Keeps → (∀ item ∈ items, Keeps item) →
    ∀ other ∈ grown, other ∈ met ∨ Keeps other

namespace Walked

theorem nil (met : List Item) : walk.Walked met met [] where
  kept _ member := member
  reached item member := absurd member (by simp)
  closed _ member := .inl member
  apart apart := apart
  within _ _ _ _ member := .inl member

theorem cons
    {met next grown rest : List Item}
    {item : Item}
    (first : walk.Walked met next [item])
    (later : walk.Walked next grown rest) :
    walk.Walked met grown (item :: rest) where
  kept other member := later.kept other (first.kept other member)
  reached other member := by
    rcases List.mem_cons.mp member with same | inRest
    · exact same ▸ (first.reached item (.head [])).mono later.kept
    · exact later.reached other inRest
  closed other member := by
    rcases later.closed other member with inNext | afterMet
    · rcases first.closed other inNext with wasMet | afterInNext
      · exact .inl wasMet
      · exact .inr fun after isAfter => (afterInNext after isAfter).mono later.kept
    · exact .inr afterMet
  apart apart := later.apart (first.apart apart)
  within Keeps hereditary fromItems other member := by
    rcases later.within Keeps hereditary (fun item isItem => fromItems item (.tail _ isItem)) other
        member with inNext | keeps
    · apply first.within Keeps hereditary _ other inNext
      intro only isOnly
      exact fromItems only (List.mem_singleton.mp isOnly ▸ .head rest)
    · exact .inr keeps

/-- What can be reached from items that have been met from the start has been met. -/
theorem hereditary_met
    {grown items : List Item}
    (walked : walk.Walked [] grown items)
    {known : Item}
    (isKnown : known ∈ grown) :
    ∀ after ∈ walk.next known, walk.Met grown after := by
  rcases walked.closed known isKnown with inNothing | afterMet
  · exact absurd inNothing (by simp)
  · exact afterMet

end Walked

theorem apart_snoc
    {met : List Item}
    {item : Item}
    (apart : walk.Apart met)
    (isNew : met.find? (fun other => walk.key other == walk.key item) = none) :
    walk.Apart (met ++ [item]) := by
  rw [Apart, List.pairwise_append]
  refine ⟨apart, List.pairwise_singleton _ _, ?_⟩
  intro other isMet last isLast
  rw [List.mem_singleton] at isLast
  subst isLast
  simpa using List.find?_eq_none.mp isNew other isMet

theorem walked_foldlM
    {items met grown : List Item}
    (each : ∀ item ∈ items, ∀ met grown, walk.step met item = .ok grown → walk.Walked met grown [item])
    (folded : items.foldlM walk.step met = .ok grown) :
    walk.Walked met grown items := by
  induction items generalizing met with
  | nil =>
      obtain rfl : met = grown := Except.ok.inj folded
      exact .nil met
  | cons item rest inductionHypothesis =>
      rw [List.foldlM_cons] at folded
      cases stepped : walk.step met item with
      | error fault => simp [stepped, bind, Except.bind] at folded
      | ok next =>
          rw [stepped] at folded
          exact (each item (.head rest) met next stepped).cons
            (inductionHypothesis (fun other member => each other (.tail item member)) folded)

theorem walked_step
    {met grown : List Item}
    {item : Item}
    (stepped : walk.step met item = .ok grown) :
    walk.Walked met grown [item] := by
  induction smaller : walk.size item using Nat.strongRecOn generalizing item met grown with
  | _ size inductionHypothesis =>
      subst smaller
      cases found : met.find? fun other => walk.key other == walk.key item with
      | some known =>
          obtain ⟨goesOn, isSame⟩ := walk.step_of_met found
          have same := isSame grown stepped
          obtain rfl : met = grown := Except.ok.inj ((goesOn same).symm.trans stepped)
          have isMet : walk.Met met item :=
            ⟨known, List.mem_of_find?_eq_some found, by simpa using List.find?_some found, same⟩
          exact ⟨fun _ member => member, by simpa using isMet, fun _ member => .inl member, id,
            fun _ _ _ _ member => .inl member⟩
      | none =>
          rw [walk.step_of_new found] at stepped
          have inner := walked_foldlM
            (fun after isAfter met grown stepped =>
              inductionHypothesis (walk.size after) (walk.size_next isAfter) stepped rfl)
            stepped
          refine ⟨fun other member => inner.kept other (List.mem_append_left _ member), ?_, ?_,
            fun apart => inner.apart (apart_snoc apart found), ?_⟩
          · intro only isOnly
            rw [List.mem_singleton.mp isOnly]
            exact ⟨item, inner.kept item (by simp), rfl, walk.same_refl item⟩
          · intro other member
            rcases inner.closed other member with inExtended | afterMet
            · rcases List.mem_append.mp inExtended with wasMet | isItem
              · exact .inl wasMet
              · rw [List.mem_singleton.mp isItem]
                exact .inr inner.reached
            · exact .inr afterMet
          · intro Keeps hereditary fromItem other member
            have keepsItem : Keeps item := fromItem item (.head [])
            rcases inner.within Keeps hereditary (hereditary item keepsItem) other member with
              inExtended | keeps
            · rcases List.mem_append.mp inExtended with wasMet | isItem
              · exact .inl wasMet
              · exact .inr (List.mem_singleton.mp isItem ▸ keepsItem)
            · exact .inr keeps

/-- A walk over several items succeeds only with a list that has all that can be reached. -/
theorem walked
    {items met grown : List Item}
    (folded : items.foldlM walk.step met = .ok grown) :
    walk.Walked met grown items :=
  walked_foldlM (fun _ _ _ _ stepped => walked_step stepped) folded

/-- Items with the same key are the same, as far as they have a property. -/
def Consistent (walk : Walk Fault Item) (Keeps : Item → Prop) : Prop :=
  ∀ first second, Keeps first → Keeps second → walk.key first = walk.key second → walk.Same first second

theorem exists_foldlM_eq_ok
    {items : List Item}
    (Keeps : Item → Prop)
    (each : ∀ item ∈ items, ∀ met, (∀ other ∈ met, Keeps other) →
      ∃ grown, walk.step met item = .ok grown ∧ ∀ other ∈ grown, Keeps other)
    {met : List Item}
    (within : ∀ other ∈ met, Keeps other) :
    ∃ grown, items.foldlM walk.step met = .ok grown ∧ ∀ other ∈ grown, Keeps other := by
  induction items generalizing met with
  | nil => exact ⟨met, rfl, within⟩
  | cons item rest inductionHypothesis =>
      obtain ⟨next, stepped, nextWithin⟩ := each item (.head rest) met within
      obtain ⟨grown, folded, grownWithin⟩ :=
        inductionHypothesis (fun other member => each other (.tail item member)) nextWithin
      refine ⟨grown, ?_, grownWithin⟩
      rw [List.foldlM_cons, stepped]
      exact folded

/-- Among consistent items no walk fails. -/
theorem exists_step_eq_ok
    {Keeps : Item → Prop}
    (hereditary : walk.Hereditary Keeps)
    (consistent : walk.Consistent Keeps)
    {item : Item}
    (keepsItem : Keeps item)
    {met : List Item}
    (within : ∀ other ∈ met, Keeps other) :
    ∃ grown, walk.step met item = .ok grown ∧ ∀ other ∈ grown, Keeps other := by
  induction smaller : walk.size item using Nat.strongRecOn generalizing item met with
  | _ size inductionHypothesis =>
      subst smaller
      cases found : met.find? fun other => walk.key other == walk.key item with
      | some known =>
          have sameKey : walk.key known = walk.key item := by simpa using List.find?_some found
          have same :=
            consistent known item (within known (List.mem_of_find?_eq_some found)) keepsItem sameKey
          exact ⟨met, (walk.step_of_met found).1 same, within⟩
      | none =>
          rw [walk.step_of_new found]
          apply exists_foldlM_eq_ok Keeps
          · intro after isAfter met within
            exact inductionHypothesis (walk.size after) (walk.size_next isAfter)
              (hereditary item keepsItem after isAfter) within rfl
          · intro other member
            rcases List.mem_append.mp member with wasMet | isItem
            · exact within other wasMet
            · exact List.mem_singleton.mp isItem ▸ keepsItem

theorem exists_walk_eq_ok
    {Keeps : Item → Prop}
    (hereditary : walk.Hereditary Keeps)
    (consistent : walk.Consistent Keeps)
    {items : List Item}
    (keepsItems : ∀ item ∈ items, Keeps item) :
    ∃ grown, items.foldlM walk.step [] = .ok grown ∧ ∀ other ∈ grown, Keeps other := by
  apply exists_foldlM_eq_ok Keeps
  · intro item isItem met within
    exact exists_step_eq_ok hereditary consistent (keepsItems item isItem) within
  · simp

/-- A walk over items with a property ends with a fault at two of them that have the same key. -/
def Refuses (walk : Walk Fault Item) (Keeps : Item → Prop) (fault : Fault) : Prop :=
  ∃ met item known, Keeps item ∧ Keeps known ∧
    met.find? (fun other => walk.key other == walk.key item) = some known ∧
    walk.step met item = .error fault

theorem refuses_of_foldlM
    {Keeps : Item → Prop}
    (hereditary : walk.Hereditary Keeps)
    {items : List Item}
    {fault : Fault}
    (each : ∀ item ∈ items, ∀ met, (∀ other ∈ met, Keeps other) →
      walk.step met item = .error fault → walk.Refuses Keeps fault)
    (keepsItems : ∀ item ∈ items, Keeps item)
    {met : List Item}
    (within : ∀ other ∈ met, Keeps other)
    (failed : items.foldlM walk.step met = .error fault) :
    walk.Refuses Keeps fault := by
  induction items generalizing met with
  | nil => exact nomatch failed
  | cons item rest inductionHypothesis =>
      rw [List.foldlM_cons] at failed
      cases stepped : walk.step met item with
      | error first =>
          rw [stepped] at failed
          obtain rfl : first = fault := Except.error.inj failed
          exact each item (.head rest) met within stepped
      | ok next =>
          rw [stepped] at failed
          have nextWithin : ∀ other ∈ next, Keeps other := by
            intro other member
            have fromItem : ∀ only ∈ [item], Keeps only := fun only isOnly =>
              List.mem_singleton.mp isOnly ▸ keepsItems item (.head rest)
            rcases (walked_step stepped).within Keeps hereditary fromItem other member with wasMet | keeps
            · exact within other wasMet
            · exact keeps
          exact inductionHypothesis (fun other member => each other (.tail item member))
            (fun other member => keepsItems other (.tail item member)) nextWithin failed

theorem refuses_of_step
    {Keeps : Item → Prop}
    (hereditary : walk.Hereditary Keeps)
    {item : Item}
    (keepsItem : Keeps item)
    {met : List Item}
    (within : ∀ other ∈ met, Keeps other)
    {fault : Fault}
    (failed : walk.step met item = .error fault) :
    walk.Refuses Keeps fault := by
  induction smaller : walk.size item using Nat.strongRecOn generalizing item met with
  | _ size inductionHypothesis =>
      subst smaller
      cases found : met.find? fun other => walk.key other == walk.key item with
      | some known =>
          exact ⟨met, item, known, keepsItem, within known (List.mem_of_find?_eq_some found), found, failed⟩
      | none =>
          rw [walk.step_of_new found] at failed
          apply refuses_of_foldlM hereditary _ (hereditary item keepsItem) _ failed
          · intro after isAfter met within failed
            exact inductionHypothesis (walk.size after) (walk.size_next isAfter)
              (hereditary item keepsItem after isAfter) within failed rfl
          · intro other member
            rcases List.mem_append.mp member with wasMet | isItem
            · exact within other wasMet
            · exact List.mem_singleton.mp isItem ▸ keepsItem

/-- A walk that fails has come to an item whose key belongs to another one that it has met. -/
theorem refuses_of_walk
    {Keeps : Item → Prop}
    (hereditary : walk.Hereditary Keeps)
    {items : List Item}
    (keepsItems : ∀ item ∈ items, Keeps item)
    {fault : Fault}
    (failed : items.foldlM walk.step [] = .error fault) :
    walk.Refuses Keeps fault := by
  apply refuses_of_foldlM hereditary _ keepsItems _ failed
  · intro item isItem met within failed
    exact refuses_of_step hereditary (keepsItems item isItem) within failed
  · simp

end Walk

end Dataflow
