import Dataflow.Candidate.Assembly
import Dataflow.Candidate.Channel
import Dataflow.Candidate.Dominance
import Dataflow.Proofs.Candidate.Merging

namespace Dataflow

/-!
# New numbers for candidates

Identifiers serve to tell the candidates of a node apart and for nothing else.  When they are replaced so that
they still do, branch plans merge as before, channels and candidates are built as before, and the same
candidates dominate each other.
-/

/-- New identifiers for the candidates of each node, given by node identifier. -/
structure Renumbering where
  apply : Nat → Nat → Nat
  /-- Different candidates of a node get different identifiers. -/
  injective : ∀ {node one other : Nat}, apply node one = apply node other → one = other

namespace Renumbering

/-- A choice with the new identifier of the chosen candidate. -/
def choice (renumbering : Renumbering) (choice : Nat × Nat) : Nat × Nat :=
  (choice.1, renumbering.apply choice.1 choice.2)

theorem choice_injective
    {renumbering : Renumbering}
    {first second : Nat × Nat}
    (same : renumbering.choice first = renumbering.choice second) :
    first = second := by
  obtain ⟨node, one⟩ := first
  obtain ⟨other, another⟩ := second
  obtain ⟨sameNode, sameChoice⟩ := Prod.mk.inj same
  obtain rfl : node = other := sameNode
  obtain rfl : one = another := renumbering.injective sameChoice
  rfl

/-- Identifiers that are greater by the same amount. -/
def shift (amount : Nat) : Renumbering where
  apply _ candidate := candidate + amount
  injective := Nat.add_right_cancel

/-- Consecutive identifiers from a start on for the listed candidates, and later ones for all others. -/
def inOrder (listed : Nat → List Nat) (start : Nat → Nat) : Renumbering where
  apply node candidate :=
    if candidate ∈ listed node then
      start node + (listed node).idxOf candidate
    else
      start node + (listed node).length + candidate
  injective := by
    intro node one other same
    by_cases oneListed : one ∈ listed node
    · have oneInside := List.idxOf_lt_length_of_mem oneListed
      by_cases otherListed : other ∈ listed node
      · have otherInside := List.idxOf_lt_length_of_mem otherListed
        rw [if_pos oneListed, if_pos otherListed] at same
        have sameIndex : (listed node).idxOf one = (listed node).idxOf other := by omega
        rw [← List.getElem_idxOf oneInside, ← List.getElem_idxOf otherInside]
        simp only [sameIndex]
      · rw [if_pos oneListed, if_neg otherListed] at same
        omega
    · by_cases otherListed : other ∈ listed node
      · have otherInside := List.idxOf_lt_length_of_mem otherListed
        rw [if_neg oneListed, if_pos otherListed] at same
        omega
      · rw [if_neg oneListed, if_neg otherListed] at same
        omega

theorem inOrder_apply
    {listed : Nat → List Nat}
    {start : Nat → Nat}
    {node candidate index : Nat}
    (distinct : (listed node).Nodup)
    (found : (listed node)[index]? = some candidate) :
    (inOrder listed start).apply node candidate = start node + index := by
  obtain ⟨inside, rfl⟩ := List.getElem?_eq_some_iff.mp found
  have isListed := List.getElem_mem inside
  have sameElement := List.getElem_idxOf (List.idxOf_lt_length_of_mem isListed)
  have sameIndex := (List.getElem_inj distinct).mp sameElement
  show (if _ then _ else _) = _
  rw [if_pos isListed, sameIndex]

end Renumbering

namespace BranchPlan

variable {renumbering : Renumbering}

/-- The branch plan with the new identifiers of the chosen candidates. -/
def renumber (renumbering : Renumbering) (plan : BranchPlan) : BranchPlan where
  entries := plan.entries.map renumbering.choice
  increasing := List.pairwise_map.mpr plan.increasing

@[simp]
theorem renumber_empty (renumbering : Renumbering) : renumber renumbering .empty = .empty :=
  rfl

theorem renumber_injective
    {first second : BranchPlan}
    (same : first.renumber renumbering = second.renumber renumbering) :
    first = second := by
  apply SortedMap.ext_entries
  exact (List.map_inj_right fun _ _ => Renumbering.choice_injective).mp (congrArg SortedMap.entries same)

theorem get?_renumber
    {plan : BranchPlan}
    {node : Nat} :
    (plan.renumber renumbering).get? node = (plan.get? node).map (renumbering.apply node) := by
  obtain ⟨entries, increasing⟩ := plan
  show (entries.map renumbering.choice).lookup node = (entries.lookup node).map (renumbering.apply node)
  clear increasing
  induction entries with
  | nil => rfl
  | cons first rest inductionHypothesis =>
      rw [List.map_cons, List.lookup_cons, List.lookup_cons, inductionHypothesis, Renumbering.choice]
      by_cases same : node = first.1
      · simp [same]
      · simp [beq_false_of_ne same]

theorem place_choice
    {node candidate : Nat}
    {entries : List (Nat × Nat)} :
    SortedMap.place node (renumbering.apply node candidate) (entries.map renumbering.choice) =
      (SortedMap.place node candidate entries).map renumbering.choice := by
  induction entries with
  | nil => rfl
  | cons first rest inductionHypothesis =>
      simp only [List.map_cons, SortedMap.place, inductionHypothesis]
      have sameNode : (renumbering.choice first).1 = first.1 := rfl
      rw [sameNode]
      split
      · rfl
      · split <;> rfl

theorem renumber_insert
    {plan : BranchPlan}
    {node candidate : Nat} :
    renumber renumbering (plan.insert node candidate) =
      (plan.renumber renumbering).insert node (renumbering.apply node candidate) :=
  SortedMap.ext_entries place_choice.symm

theorem renumber_filterKeys
    {plan : BranchPlan}
    {keep : Nat → Bool} :
    renumber renumbering (plan.filterKeys keep) = (plan.renumber renumbering).filterKeys keep := by
  apply SortedMap.ext_entries
  show (plan.entries.filter _).map renumbering.choice = (plan.entries.map renumbering.choice).filter _
  rw [List.filter_map]
  rfl

theorem choose?_renumber
    {plan : BranchPlan}
    {choice : Nat × Nat} :
    (plan.renumber renumbering).choose? (renumbering.choice choice) =
      (plan.choose? choice).map (renumber renumbering) := by
  have earlier_iff : ∀ earlier, renumbering.apply choice.1 earlier = renumbering.apply choice.1 choice.2 ↔
      earlier = choice.2 := fun earlier => ⟨renumbering.injective, fun same => same ▸ rfl⟩
  unfold choose?
  rw [Renumbering.choice, get?_renumber]
  cases plan.get? choice.1 with
  | none => simp [renumber_insert]
  | some earlier =>
      simp only [Option.map_some, earlier_iff]
      split <;> simp [renumber_insert]

theorem foldlM_choose?_renumber
    {choices : List (Nat × Nat)}
    {plan : BranchPlan} :
    (choices.map renumbering.choice).foldlM choose? (plan.renumber renumbering) =
      (choices.foldlM choose? plan).map (renumber renumbering) := by
  induction choices generalizing plan with
  | nil => rfl
  | cons choice rest inductionHypothesis =>
      rw [List.map_cons, List.foldlM_cons, List.foldlM_cons, choose?_renumber]
      cases plan.choose? choice with
      | none => rfl
      | some grown => exact inductionHypothesis

/-- Renumbered branch plans can be merged when the plans can, with the renumbered result. -/
theorem merge?_renumber
    {plans : List BranchPlan} :
    merge? (plans.map (renumber renumbering)) = (merge? plans).map (renumber renumbering) := by
  have sameChoices : (plans.map (renumber renumbering)).flatMap SortedMap.entries =
      (plans.flatMap SortedMap.entries).map renumbering.choice := by
    rw [List.flatMap_map, List.map_flatMap]
    rfl
  rw [merge?, merge?_eq_foldlM_flatMap, sameChoices, ← renumber_empty renumbering,
    foldlM_choose?_renumber, merge?, merge?_eq_foldlM_flatMap]

end BranchPlan

namespace Candidate

variable {Number : Type}

/-- The candidate with new identifiers for itself and for all that it is built on. -/
def renumber (renumbering : Renumbering) (candidate : Candidate Number) : Candidate Number :=
  { candidate with
    identifier := renumbering.apply candidate.node.identifier candidate.identifier
    inputs := candidate.inputs.attach.map fun channel =>
      { channel.val with source := renumber renumbering channel.val.source }
    branchPlan := candidate.branchPlan.renumber renumbering }
termination_by sizeOf candidate
decreasing_by exact sizeOf_source_lt channel.property

end Candidate

/-- The channel with new identifiers for the candidate at its other end. -/
def Channel.renumber
    {Number : Type}
    (renumbering : Renumbering)
    (channel : Channel Number (Candidate Number)) :
    Channel Number (Candidate Number) :=
  { channel with source := channel.source.renumber renumbering }

namespace Candidate

variable {Number : Type} {renumbering : Renumbering} {candidate : Candidate Number}

theorem renumber_eq (renumbering : Renumbering) (candidate : Candidate Number) :
    candidate.renumber renumbering =
      { candidate with
        identifier := renumbering.apply candidate.node.identifier candidate.identifier
        inputs := candidate.inputs.map (Channel.renumber renumbering)
        branchPlan := candidate.branchPlan.renumber renumbering } := by
  rw [renumber]
  congr 1
  exact List.attach_map_val (f := Channel.renumber renumbering)

section Fields

@[simp]
theorem globally_renumber : (candidate.renumber renumbering).globally = candidate.globally := by
  rw [renumber_eq]

@[simp]
theorem locally_renumber : (candidate.renumber renumbering).locally = candidate.locally := by
  rw [renumber_eq]

@[simp]
theorem parallelism_renumber : (candidate.renumber renumbering).parallelism = candidate.parallelism := by
  rw [renumber_eq]

@[simp]
theorem statistics_renumber : (candidate.renumber renumbering).statistics = candidate.statistics := by
  rw [renumber_eq]

@[simp]
theorem cumulativeCost_renumber :
    (candidate.renumber renumbering).cumulativeCost = candidate.cumulativeCost := by
  rw [renumber_eq]

@[simp]
theorem branchPlan_renumber :
    (candidate.renumber renumbering).branchPlan = candidate.branchPlan.renumber renumbering := by
  rw [renumber_eq]

end Fields

theorem openBranch_renumber :
    (candidate.renumber renumbering).openBranch = candidate.openBranch.renumber renumbering := by
  simp only [openBranch, renumber_eq, BranchPlan.renumber_insert]

variable [Arithmetic Number]

theorem accumulate_renumber
    {nodeCost : Cost Number}
    {inputs : List (Channel Number (Candidate Number))} :
    accumulate nodeCost (inputs.map (Channel.renumber renumbering)) = accumulate nodeCost inputs := by
  simp [accumulate, List.foldl_map, Channel.renumber]

theorem channelBy?_renumber
    {request : ChannelRequest}
    {model : CostModel Number}
    {ship : ShipStrategy} :
    (candidate.renumber renumbering).channelBy? request model ship =
      (candidate.channelBy? request model ship).map (Channel.renumber renumbering) := by
  simp only [channelBy?, globally_renumber, locally_renumber, statistics_renumber]
  split
  · split <;> rfl
  · rfl

theorem channels_renumber
    {request : ChannelRequest}
    {model : CostModel Number} :
    (candidate.renumber renumbering).channels request model =
      (candidate.channels request model).map (Channel.renumber renumbering) := by
  simp only [channels, globally_renumber, parallelism_renumber, List.map_filterMap]
  congr 1
  funext ship
  exact channelBy?_renumber

omit [Arithmetic Number] in
theorem covers_renumber_iff
    {other : Candidate Number} :
    (candidate.renumber renumbering).Covers (other.renumber renumbering) ↔ candidate.Covers other := by
  simp only [Covers, globally_renumber, locally_renumber]

theorem dominates_renumber_iff
    {weights : Weights Number}
    {other : Candidate Number} :
    (candidate.renumber renumbering).Dominates weights (other.renumber renumbering) ↔
      candidate.Dominates weights other := by
  have samePlan : (candidate.renumber renumbering).branchPlan = (other.renumber renumbering).branchPlan ↔
      candidate.branchPlan = other.branchPlan := by
    rw [branchPlan_renumber, branchPlan_renumber]
    exact ⟨BranchPlan.renumber_injective, fun same => same ▸ rfl⟩
  simp only [Dominates, covers_renumber_iff, samePlan, weightedCost, cumulativeCost_renumber]

/-- The same candidates are dropped under new identifiers. -/
theorem prune_renumber
    {weights : Weights Number}
    {candidates : List (Candidate Number)} :
    prune weights (candidates.map (renumber renumbering)) =
      (prune weights candidates).map (renumber renumbering) := by
  rw [prune, prune, List.filter_map]
  congr 1
  apply List.filter_congr
  intro candidate _
  simp only [Function.comp_apply, List.forall_mem_map, dominates_renumber_iff]

end Candidate

/-- The assembly with new identifiers for all that it is built on. -/
def Assembly.renumber
    {Number : Type}
    (renumbering : Renumbering)
    (assembly : Assembly Number) :
    Assembly Number where
  driver := assembly.driver
  inputs := assembly.inputs.map (Channel.renumber renumbering)
  branchPlan := assembly.branchPlan.renumber renumbering

theorem Assembly.instantiate_renumber
    {Number : Type}
    [Arithmetic Number]
    {renumbering : Renumbering}
    {assembly : Assembly Number}
    {context : NodeContext Number}
    {model : CostModel Number}
    {identifier : Nat} :
    (assembly.renumber renumbering).instantiate context model
        (renumbering.apply context.node.identifier identifier) =
      (assembly.instantiate context model identifier).renumber renumbering := by
  have sameGlobals : (assembly.inputs.map (Channel.renumber renumbering)).map Channel.globally =
      assembly.inputs.map Channel.globally := by
    simp [Channel.renumber]
  have sameLocals : (assembly.inputs.map (Channel.renumber renumbering)).map Channel.locally =
      assembly.inputs.map Channel.locally := by
    simp [Channel.renumber]
  have sameSizes : context.drivenSizes (assembly.inputs.map (Channel.renumber renumbering)) =
      context.drivenSizes assembly.inputs := by
    have sameStatistics : ∀ channel : Channel Number (Candidate Number),
        (channel.renumber renumbering).source.statistics = channel.source.statistics :=
      fun _ => Candidate.statistics_renumber
    simp only [NodeContext.drivenSizes, List.map_map, Function.comp_def, sameStatistics]
  rw [Candidate.renumber_eq]
  simp only [instantiate, renumber, sameGlobals, sameLocals, sameSizes, Candidate.accumulate_renumber]

end Dataflow
