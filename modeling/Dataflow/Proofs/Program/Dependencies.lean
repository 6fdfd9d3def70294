import Dataflow.Program.Basic

namespace Dataflow.Program

/-!
# Dependencies between nodes

A node depends on itself, on the nodes that it reads, and on all that these depend on.  The list that the
planner works through holds exactly the dependencies of its sinks, each once and after all that it reads.
-/

variable {Number : Type} {program : Program Number}

/-- The nodes that a node reads are at the positions that it names. -/
theorem map_val_inputs (program : Program Number) (ref : program.Ref) :
    (program.inputs ref).map Fin.val = (program.node ref).inputs := by
  rw [inputs, List.map_map]
  exact List.attach_map_subtype_val (program.node ref).inputs

/-- The first node is the second one, or reads it directly or through others. -/
inductive DependsOn (program : Program Number) : program.Ref → program.Ref → Prop where
  | self (ref : program.Ref) : DependsOn program ref ref
  | reads {ref input other : program.Ref} :
      input ∈ program.inputs ref →
      DependsOn program input other →
      DependsOn program ref other

namespace DependsOn

theorem trans
    {first second third : program.Ref}
    (before : DependsOn program first second)
    (after : DependsOn program second third) :
    DependsOn program first third := by
  induction before with
  | self ref => exact after
  | reads isInput _ inductionHypothesis => exact .reads isInput (inductionHypothesis after)

theorem ofInput
    {ref input : program.Ref}
    (isInput : input ∈ program.inputs ref) :
    DependsOn program ref input :=
  .reads isInput (.self input)

theorem le
    {ref other : program.Ref}
    (depends : DependsOn program ref other) :
    other ≤ ref := by
  induction depends with
  | self ref => exact Nat.le_refl _
  | reads isInput _ inductionHypothesis =>
      exact Nat.le_trans inductionHypothesis (Nat.le_of_lt (lt_of_mem_inputs isInput))

theorem antisymm
    {first second : program.Ref}
    (forth : DependsOn program first second)
    (back : DependsOn program second first) :
    first = second :=
  Fin.ext (Nat.le_antisymm back.le forth.le)

theorem not_of_mem_inputs
    {ref input : program.Ref}
    (isInput : input ∈ program.inputs ref) :
    ¬ DependsOn program input ref := by
  intro depends
  exact Nat.not_le_of_lt (lt_of_mem_inputs isInput) depends.le

/-- A node that another one depends on is that node, or is read by a node that the other depends on. -/
theorem eq_or_read
    {ref other : program.Ref}
    (depends : DependsOn program ref other) :
    other = ref ∨ ∃ consumer, DependsOn program ref consumer ∧ other ∈ program.inputs consumer := by
  induction depends with
  | self ref => exact .inl rfl
  | @reads ref input other isInput _ inductionHypothesis =>
      right
      rcases inductionHypothesis with same | ⟨consumer, dependsOnConsumer, isRead⟩
      · subst same
        exact ⟨ref, .self ref, isInput⟩
      · exact ⟨consumer, .reads isInput dependsOnConsumer, isRead⟩

/-- A node that another one depends on is that node, or one of its inputs depends on it. -/
theorem eq_or_input
    {ref other : program.Ref}
    (depends : DependsOn program ref other) :
    other = ref ∨ ∃ input ∈ program.inputs ref, DependsOn program input other := by
  cases depends with
  | self => exact .inl rfl
  | reads isInput onward => exact .inr ⟨_, isInput, onward⟩

end DependsOn

/-- No node is listed twice, and every node stands after all that it reads. -/
structure InputsFirst (order : List program.Ref) : Prop where
  nodup : order.Nodup
  inputsBefore :
    ∀ {done rest : List program.Ref} {ref : program.Ref},
      order = done ++ ref :: rest →
      ∀ input ∈ program.inputs ref, input ∈ done

namespace InputsFirst

theorem nil : InputsFirst ([] : List program.Ref) where
  nodup := List.nodup_nil
  inputsBefore split := by
    exact absurd split (by simp)

theorem snoc
    {order : List program.Ref}
    {ref : program.Ref}
    (inputsFirst : InputsFirst order)
    (isNew : ref ∉ order)
    (inputsThere : ∀ input ∈ program.inputs ref, input ∈ order) :
    InputsFirst (order ++ [ref]) where
  nodup := by
    rw [List.nodup_append]
    refine ⟨inputsFirst.nodup, by simp, ?_⟩
    intro other isOther last isLast same
    rw [List.mem_singleton] at isLast
    exact isNew (isLast ▸ same ▸ isOther)
  inputsBefore := by
    intro done rest other split
    rcases List.eq_nil_or_concat rest with isNil | ⟨front, last, isConcat⟩
    · subst isNil
      obtain ⟨sameOrder, sameRef⟩ := List.append_inj' split rfl
      obtain rfl : ref = other := by simpa using sameRef
      exact sameOrder ▸ inputsThere
    · subst isConcat
      have regrouped : order ++ [ref] = (done ++ other :: front) ++ [last] := by
        simpa using split
      exact inputsFirst.inputsBefore (List.append_inj' regrouped rfl).1

theorem of_append
    {done rest : List program.Ref}
    (inputsFirst : InputsFirst (done ++ rest)) :
    InputsFirst done where
  nodup := (List.nodup_append.mp inputsFirst.nodup).1
  inputsBefore := by
    intro earlier later ref split
    have regrouped : done ++ rest = earlier ++ ref :: (later ++ rest) := by simp [split]
    exact inputsFirst.inputsBefore regrouped

/-- With a node, such a list holds all that the node depends on. -/
theorem mem_of_dependsOn
    {order : List program.Ref}
    (inputsFirst : InputsFirst order)
    {ref other : program.Ref}
    (depends : DependsOn program ref other)
    (member : ref ∈ order) :
    other ∈ order := by
  induction depends with
  | self ref => exact member
  | reads isInput _ inductionHypothesis =>
      obtain ⟨done, rest, split⟩ := List.append_of_mem member
      apply inductionHypothesis
      rw [split]
      exact List.mem_append_left _ (inputsFirst.inputsBefore split _ isInput)

end InputsFirst

theorem appendDependencies_of_mem
    {found : List program.Ref}
    {ref : program.Ref}
    (isFound : ref ∈ found) :
    program.appendDependencies found ref = found := by
  rw [appendDependencies, if_pos isFound]

/-- The recursion without the proofs that it ends. -/
theorem appendDependencies_of_not_mem
    {found : List program.Ref}
    {ref : program.Ref}
    (isNew : ref ∉ found) :
    program.appendDependencies found ref =
      (program.inputs ref).foldl program.appendDependencies found ++ [ref] := by
  rw [appendDependencies, if_neg isNew]
  show (program.inputs ref).attach.foldl _ found ++ [ref] = _
  rw [List.foldl_attach]

/-- Appending the dependencies of nodes keeps inputs first, and adds nothing else. -/
def Extends (program : Program Number) (found grown refs : List program.Ref) : Prop :=
  InputsFirst grown ∧
    ∀ other, other ∈ grown ↔ other ∈ found ∨ ∃ ref ∈ refs, DependsOn program ref other

theorem foldl_appendDependencies_extends
    {refs found : List program.Ref}
    (each : ∀ ref ∈ refs, ∀ found, InputsFirst found →
      program.Extends found (program.appendDependencies found ref) [ref])
    (inputsFirst : InputsFirst found) :
    program.Extends found (refs.foldl program.appendDependencies found) refs := by
  induction refs generalizing found with
  | nil => exact ⟨inputsFirst, by simp⟩
  | cons ref rest inductionHypothesis =>
      obtain ⟨grownInputsFirst, memGrown⟩ := each ref (.head rest) found inputsFirst
      obtain ⟨allInputsFirst, memAll⟩ :=
        inductionHypothesis (fun other member => each other (.tail ref member)) grownInputsFirst
      refine ⟨allInputsFirst, fun other => ?_⟩
      rw [List.foldl_cons, memAll, memGrown]
      simp [or_assoc]

theorem appendDependencies_extends
    (ref : program.Ref)
    (found : List program.Ref)
    (inputsFirst : InputsFirst found) :
    program.Extends found (program.appendDependencies found ref) [ref] := by
  induction position : ref.val using Nat.strongRecOn generalizing ref found with
  | _ position inductionHypothesis =>
      subst position
      by_cases isFound : ref ∈ found
      · rw [appendDependencies_of_mem isFound]
        refine ⟨inputsFirst, fun other => ?_⟩
        have closed := fun depends : DependsOn program ref other =>
          inputsFirst.mem_of_dependsOn depends isFound
        simpa using closed
      · rw [appendDependencies_of_not_mem isFound]
        obtain ⟨grownInputsFirst, memGrown⟩ :=
          foldl_appendDependencies_extends
            (fun input isInput found foundFirst =>
              inductionHypothesis input.val (lt_of_mem_inputs isInput) input found foundFirst rfl)
            inputsFirst
        have refIsNew : ref ∉ (program.inputs ref).foldl program.appendDependencies found := by
          intro member
          rcases (memGrown ref).mp member with isThere | ⟨input, isInput, depends⟩
          · exact isFound isThere
          · exact DependsOn.not_of_mem_inputs isInput depends
        refine ⟨grownInputsFirst.snoc refIsNew fun input isInput =>
          (memGrown input).mpr (.inr ⟨input, isInput, .self input⟩), fun other => ?_⟩
        rw [List.mem_append, memGrown, List.mem_singleton]
        constructor
        · rintro ((isThere | ⟨input, isInput, depends⟩) | same)
          · exact .inl isThere
          · exact .inr ⟨ref, by simp, .reads isInput depends⟩
          · exact .inr ⟨ref, by simp, same ▸ .self ref⟩
        · rintro (isThere | ⟨root, isRoot, depends⟩)
          · exact .inl (.inl isThere)
          · obtain rfl : root = ref := by simpa using isRoot
            rcases depends.eq_or_input with same | onward
            · exact .inr same
            · exact .inl (.inr onward)

@[simp]
theorem mem_dependencies
    {ref other : program.Ref} :
    other ∈ program.dependencies ref ↔ DependsOn program ref other := by
  rw [dependencies, (appendDependencies_extends ref [] .nil).2 other]
  simp

theorem dependenciesOf_extends (refs : List program.Ref) :
    program.Extends [] (program.dependenciesOf refs) refs :=
  foldl_appendDependencies_extends
    (fun ref _ => appendDependencies_extends ref)
    .nil

@[simp]
theorem mem_dependenciesOf
    {refs : List program.Ref}
    {other : program.Ref} :
    other ∈ program.dependenciesOf refs ↔ ∃ ref ∈ refs, DependsOn program ref other := by
  simpa using (dependenciesOf_extends refs).2 other

theorem inputsFirst_dependenciesOf (refs : List program.Ref) :
    InputsFirst (program.dependenciesOf refs) :=
  (dependenciesOf_extends refs).1

end Dataflow.Program
