import Dataflow.Proofs.Sizes.Derivation
import Mathlib.Data.List.Forall2

namespace Dataflow

/-!
# Refinement of sizes

An estimate is refined when it was unknown and has become known.  What is derived from known numbers is derived from
them still when more numbers are known, so an operator's output is refined by refined inputs, and no size of it that was
known before changes.
-/

namespace Estimate

variable {Number : Type} {estimate informed better : Estimate Number}

/-- The estimates differ at most in that the first one is unknown. -/
def RefinedBy (estimate informed : Estimate Number) : Prop :=
  estimate = .unknown ∨ informed = estimate

theorem refinedBy_iff :
    estimate.RefinedBy informed ↔ ∀ value, estimate = .known value → informed = .known value := by
  cases estimate <;> simp [RefinedBy]

theorem RefinedBy.trans
    (first : estimate.RefinedBy informed)
    (second : informed.RefinedBy better) :
    estimate.RefinedBy better := by
  rw [refinedBy_iff] at *
  exact fun value known => second value (first value known)

theorem refinedBy_orElse (estimate more : Estimate Number) : estimate.RefinedBy (estimate.orElse more) := by
  cases estimate with
  | unknown => exact .inl rfl
  | known value => exact .inr rfl

end Estimate

namespace Statistics

variable {Number : Type}

/-- Both sizes are refined. -/
structure RefinedBy (statistics informed : Statistics Number) : Prop where
  records : statistics.records.RefinedBy informed.records
  bytes : statistics.bytes.RefinedBy informed.bytes

theorem refinedBy_iff
    {statistics informed : Statistics Number} :
    statistics.RefinedBy informed ↔
      ∀ measure value, statistics.size measure = .known value → informed.size measure = .known value := by
  constructor
  · intro refined measure
    cases measure with
    | records => exact Estimate.refinedBy_iff.mp refined.records
    | bytes => exact Estimate.refinedBy_iff.mp refined.bytes
  · intro kept
    exact ⟨Estimate.refinedBy_iff.mpr (kept .records), Estimate.refinedBy_iff.mpr (kept .bytes)⟩

theorem RefinedBy.refl (statistics : Statistics Number) : statistics.RefinedBy statistics :=
  ⟨.inr rfl, .inr rfl⟩

theorem RefinedBy.trans
    {statistics informed better : Statistics Number}
    (first : statistics.RefinedBy informed)
    (second : informed.RefinedBy better) :
    statistics.RefinedBy better :=
  ⟨first.records.trans second.records, first.bytes.trans second.bytes⟩

/-- The data sets are as many, and each is refined by the one at the same place. -/
abbrev AllRefinedBy (inputs informed : List (Statistics Number)) : Prop :=
  List.Forall₂ RefinedBy inputs informed

namespace AllRefinedBy

variable {inputs informed : List (Statistics Number)}

theorem recordsOf_eq_known
    (refined : AllRefinedBy inputs informed)
    {input : Nat}
    {value : Number}
    (known : recordsOf inputs input = .known value) :
    recordsOf informed input = .known value := by
  induction refined generalizing input with
  | nil => exact known
  | cons first _ inductionHypothesis =>
      cases input with
      | zero => exact refinedBy_iff.mp first .records value known
      | succ input => exact inductionHypothesis known

theorem exists_head
    (refined : AllRefinedBy inputs informed)
    {data : Statistics Number}
    (isFirst : inputs.head? = some data) :
    ∃ other, informed.head? = some other ∧ data.RefinedBy other := by
  cases refined with
  | nil => exact nomatch isFirst
  | @cons first other _ _ firstRefined _ =>
      obtain rfl : first = data := Option.some.inj isFirst
      exact ⟨other, rfl, firstRefined⟩

end AllRefinedBy

variable [Arithmetic Number] {hints : Hints Number} {inputs informed : List (Statistics Number)}
variable {operator : Operator Number} {value : Number}

theorem HasWidth.refined
    {data other : Statistics Number}
    (hasWidth : data.HasWidth value)
    (refined : data.RefinedBy other) :
    other.HasWidth value := by
  obtain ⟨isRecords, isBytes, positive⟩ := hasWidth
  exact .divided (refinedBy_iff.mp refined .records _ isRecords) (refinedBy_iff.mp refined .bytes _ isBytes) positive

theorem DerivesCalls.refined
    (derived : DerivesCalls hints inputs operator value)
    (refined : AllRefinedBy inputs informed) :
    DerivesCalls hints informed operator value := by
  cases derived with
  | map isRecords => exact .map (refined.recordsOf_eq_known isRecords)
  | declaredGroups declared => exact .declaredGroups declared
  | sizedGroups undeclared isRecords isSize positive =>
      exact .sizedGroups undeclared (refined.recordsOf_eq_known isRecords) isSize positive
  | join isFirst isSecond => exact .join (refined.recordsOf_eq_known isFirst) (refined.recordsOf_eq_known isSecond)
  | cross isFirst isSecond => exact .cross (refined.recordsOf_eq_known isFirst) (refined.recordsOf_eq_known isSecond)

theorem DerivesWidth.refined
    (derived : DerivesWidth hints inputs value)
    (refined : AllRefinedBy inputs informed) :
    DerivesWidth hints informed value := by
  cases derived with
  | declared declared => exact .declared declared
  | single undeclared hasWidth =>
      match informed, refined with
      | [_], .cons dataRefined .nil => exact .single undeclared (hasWidth.refined dataRefined)
  | pair undeclared firstWidth secondWidth =>
      match informed, refined with
      | [_, _], .cons firstRefined (.cons secondRefined .nil) =>
          exact .pair undeclared (firstWidth.refined firstRefined) (secondWidth.refined secondRefined)

/-- No rule for a size is taken away by knowing more. -/
theorem Derives.refined
    {measure : Measure}
    (derived : Derives hints inputs operator measure value)
    (refined : AllRefinedBy inputs informed) :
    Derives hints informed operator measure value := by
  cases derived with
  | declared known => exact .declared known
  | consumed isFirst known =>
      obtain ⟨other, otherFirst, dataRefined⟩ := refined.exists_head isFirst
      exact .consumed otherFirst (refinedBy_iff.mp dataRefined measure value known)
  | records called emits => exact .records (called.refined refined) emits
  | bytes called emits isWidth => exact .bytes (called.refined refined) emits (isWidth.refined refined)

/-- Refined inputs refine the output. -/
theorem estimate_refinedBy
    (operator : Operator Number)
    (hints : Hints Number)
    (refined : AllRefinedBy inputs informed) :
    (estimate operator hints inputs).RefinedBy (estimate operator hints informed) := by
  rw [refinedBy_iff]
  intro measure value known
  have derived := size_estimate_eq_known_iff.mp known
  exact size_estimate_eq_known_iff.mpr (derived.refined refined)

end Statistics

end Dataflow
