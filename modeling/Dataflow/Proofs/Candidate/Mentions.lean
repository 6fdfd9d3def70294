import Dataflow.Proofs.Candidate.Maximality
import Dataflow.Proofs.Candidate.Output
import Dataflow.Proofs.Properties.Mentions

namespace Dataflow

/-!
# Fields that candidates mention

The function behind an operator may overwrite every field that it is not declared to preserve.  Drivers bring
fields back after the properties of their inputs have been restricted, such as the keys of a reduction.  What is
known of the output nevertheless mentions preserved fields only, and those that are declared unique.
-/

namespace Driver

/-- Of one or two inputs, the result of a driver that reads them together mentions what one of them does. -/
theorem exists_input_of_mentions_combineInputs
    {inputs : List GlobalProperties}
    {field : Field}
    (mentions : (combineInputs inputs).Mentions field) :
    ∃ input < 2, ∃ properties, inputs[input]? = some properties ∧ properties.Mentions field := by
  unfold combineInputs at mentions
  split at mentions
  · exact ⟨0, by decide, _, rfl, mentions⟩
  · rcases GlobalProperties.mentions_of_mentions_combine mentions with ofFirst | ofSecond
    · exact ⟨0, by decide, _, rfl, ofFirst⟩
    · exact ⟨1, by decide, _, rfl, ofSecond⟩
  · exact absurd mentions GlobalProperties.not_mentions_random

/-- A partitioning that a product takes from a unique combination is on fields that were mentioned before. -/
theorem mentions_of_mentions_productPartitioning
    {combined : GlobalProperties}
    {field : Field}
    (mentions : GlobalProperties.Mentions { partitioning := productPartitioning combined } field) :
    combined.Mentions field := by
  rcases mentions with ⟨deciding, isDeciding, isField⟩ | ⟨fields, isThere, _⟩
  · simp only [productPartitioning] at isDeciding
    split at isDeciding
    · split at isDeciding
      · rename_i first rest isFirst
        obtain rfl : first.toFieldList.toSet = deciding := Option.some.inj isDeciding
        exact .inr ⟨first, SortedSet.mem_def.mpr (isFirst ▸ .head rest), FieldList.mem_toSet.mp isField⟩
      · exact nomatch isDeciding
    · exact .inl ⟨deciding, isDeciding, isField⟩
  · exact absurd isThere (SortedSet.not_mem_empty fields)

/-- No driver mentions globally what neither of its first two inputs does. -/
theorem exists_input_of_mentions_outputGlobal
    {driver : Driver}
    {inputs : List GlobalProperties}
    {field : Field}
    (mentions : (driver.outputGlobal inputs).Mentions field) :
    ∃ input < 2, ∃ properties, inputs[input]? = some properties ∧ properties.Mentions field := by
  have ofHead : (inputs.headD .random).Mentions field →
      ∃ input < 2, ∃ properties, inputs[input]? = some properties ∧ properties.Mentions field := by
    intro mentionedByHead
    cases inputs with
    | nil => exact absurd mentionedByHead GlobalProperties.not_mentions_random
    | cons head rest => exact ⟨0, by decide, head, rfl, mentionedByHead⟩
  have ofJoin : (combineInputs inputs).clearUnique.Mentions field →
      ∃ input < 2, ∃ properties, inputs[input]? = some properties ∧ properties.Mentions field :=
    fun cleared => exists_input_of_mentions_combineInputs
      (GlobalProperties.mentions_of_mentions_clearUnique cleared)
  cases driver with
  | sourceScan => exact ofHead mentions
  | sinkForward => exact ofHead mentions
  | mapForward => exact ofHead mentions
  | sortedReduce keys combinable => exact ofHead mentions
  | repartitionHashJoin left right => exact ofJoin mentions
  | sortMergeJoin left right => exact ofJoin mentions
  | broadcastHashJoinFirst left right => exact ofJoin mentions
  | broadcastHashJoinSecond left right => exact ofJoin mentions
  | cartesianProduct =>
      exact exists_input_of_mentions_combineInputs (mentions_of_mentions_productPartitioning mentions)

end Driver

/-- The field of an input is declared to be copied unchanged into the output. -/
def Operator.Preserves {Number : Type} (operator : Operator Number) (input : Nat) (field : Field) : Prop :=
  ∃ fields, operator.preserved? input = some fields ∧ field ∈ fields

namespace NodeContext

variable {Number : Type} {context : NodeContext Number} {driver : Driver} {field : Field}

theorem preserves_of_mem_retained
    {input : Nat}
    (isRetained : field ∈ context.retained input) :
    context.node.operator.Preserves input field := by
  unfold retained at isRetained
  cases declared : context.node.operator.preserved? input with
  | none =>
      rw [declared] at isRetained
      exact absurd isRetained (SortedSet.not_mem_empty field)
  | some fields =>
      rw [declared] at isRetained
      exact ⟨fields, declared, isRetained⟩

theorem preserves_of_mentions_outputGlobal
    (callsFunction : context.node.operator.CallsFunction)
    {delivered : List GlobalProperties}
    (mentions : (context.outputGlobal driver delivered).Mentions field) :
    context.node.operator.Preserves 0 field ∨ context.node.operator.Preserves 1 field ∨
      context.node.hints.uniqueSets.Mentions field := by
  have ofDerived : (context.derivedGlobal driver delivered).Mentions field →
      context.node.operator.Preserves 0 field ∨ context.node.operator.Preserves 1 field := by
    rw [derivedGlobal_eq callsFunction]
    intro mentionsDerived
    obtain ⟨input, isEarly, retained, isInput, mentionsInput⟩ :=
      Driver.exists_input_of_mentions_outputGlobal mentionsDerived
    rw [List.getElem?_mapIdx, Option.map_eq_some_iff] at isInput
    obtain ⟨properties, _, rfl⟩ := isInput
    have preserves := preserves_of_mem_retained (GlobalProperties.mem_of_mentions_retain mentionsInput)
    match input, isEarly with
    | 0, _ => exact .inl preserves
    | 1, _ => exact .inr preserves
  rw [outputGlobal_eq] at mentions
  rcases mentions with decides | unique
  · exact or_assoc.mp (.inl (ofDerived (.inl decides)))
  · rcases FieldSets.mentions_of_mentions_union unique with derived | declared
    · exact or_assoc.mp (.inl (ofDerived (.inr derived)))
    · exact .inr (.inr declared)

theorem preserves_of_mentions_outputLocal
    (callsFunction : context.node.operator.CallsFunction)
    {delivered : List LocalProperties}
    (mentions : (context.outputLocal driver delivered).Mentions field) :
    context.node.operator.Preserves 0 field ∨ context.node.hints.uniqueSets.Mentions field := by
  have ofDerived : (context.derivedLocal driver delivered).Mentions field →
      context.node.operator.Preserves 0 field := by
    rw [derivedLocal_eq callsFunction]
    exact fun mentionsDerived =>
      preserves_of_mem_retained (LocalProperties.mem_of_mentions_retain mentionsDerived)
  rw [outputLocal_eq] at mentions
  rcases mentions with ordered | grouped | unique
  · exact .inl (ofDerived (.inl ordered))
  · exact .inl (ofDerived (.inr (.inl grouped)))
  · exact (FieldSets.mentions_of_mentions_union unique).imp_left fun derived => ofDerived (.inr (.inr derived))

end NodeContext

/--
What is known of the output of a function, by whichever driver and from whatever the channels deliver, is known of
fields that are preserved or declared unique.  Locally only the first input counts.
-/
theorem Assembly.instantiate_mentions
    {Number : Type}
    [Arithmetic Number]
    {context : NodeContext Number}
    (callsFunction : context.node.operator.CallsFunction)
    (assembly : Assembly Number)
    (model : CostModel Number)
    (identifier : Nat)
    (field : Field) :
    ((assembly.instantiate context model identifier).globally.Mentions field →
      context.node.operator.Preserves 0 field ∨ context.node.operator.Preserves 1 field ∨
        context.node.hints.uniqueSets.Mentions field) ∧
      ((assembly.instantiate context model identifier).locally.Mentions field →
        context.node.operator.Preserves 0 field ∨ context.node.hints.uniqueSets.Mentions field) :=
  ⟨NodeContext.preserves_of_mentions_outputGlobal callsFunction,
    NodeContext.preserves_of_mentions_outputLocal callsFunction⟩

/--
A join that reads replicated data and data that is hashed on field 2 delivers data that is hashed on this field, which
it preserves from the second input, and names field 5 as unique, which is declared.
-/
theorem Assembly.instantiate_mentions_join :
    let context : NodeContext WholeNumber :=
      { node :=
          { identifier := 2, name := "priced", inputs := [0, 1],
            operator := .join { left := [0], right := [0] }
              { first := some (.ofList [0, 1]), second := some (.ofList [2]) },
            hints := { uniqueSets := .ofList [.ofList [5]] } }
        parallelism := 1
        statistics := {} }
    let channel (globally : GlobalProperties) : Channel WholeNumber (Candidate WholeNumber) :=
      { source := .scan 0 .random 1, ship := .forward, preparation := .none, globally, locally := {},
        replication := 1, cost := .zero }
    let assembly : Assembly WholeNumber :=
      { driver := .broadcastHashJoinFirst [0] [0]
        inputs := [channel { partitioning := .replicated, uniqueSets := .ofList [.ofList [0]] },
          channel { partitioning := .hash [2] }] }
    let candidate := assembly.instantiate context .default 7
    candidate.globally.Mentions 2 ∧ candidate.locally.Mentions 5 ∧
      (context.node.operator.Preserves 0 2 ∨ context.node.operator.Preserves 1 2 ∨
        context.node.hints.uniqueSets.Mentions 2) ∧
      (context.node.operator.Preserves 0 5 ∨ context.node.hints.uniqueSets.Mentions 5) := by
  intro context channel assembly candidate
  have globally : candidate.globally.Mentions 2 := .inl ⟨.ofList [2], rfl, by decide⟩
  have locally : candidate.locally.Mentions 5 := .inr (.inr ⟨.ofList [5], by decide, by decide⟩)
  have callsFunction : context.node.operator.CallsFunction := trivial
  exact ⟨globally, locally, (assembly.instantiate_mentions callsFunction .default 7 2).1 globally,
    (assembly.instantiate_mentions callsFunction .default 7 5).2 locally⟩

end Dataflow
