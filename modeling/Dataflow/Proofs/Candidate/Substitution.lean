import Dataflow.Candidate.Assembly
import Dataflow.Candidate.Channel
import Dataflow.Proofs.Candidate.Pruning

namespace Dataflow

/-!
# Substitution of inputs

A candidate can take the place of another one of its node that delivers the same.  The channels from it are
those from the other one, and what is built on them delivers the same as before.  If it costs no more, neither
does anything that is built on it, provided that costs are added exactly.
-/

variable {Number : Type} [Arithmetic Number]

namespace ExactlyAdded

variable [ExactlyAdded Number]

theorem not_lt_refl (number : Number) : ¬ number < number :=
  StrictlyCompared.irrefl number

theorem not_lt_trans
    {first middle last : Number}
    (before : ¬ middle < first)
    (after : ¬ last < middle) :
    ¬ last < first :=
  TotallyCompared.not_lt_trans (isDefined middle) before after

theorem weighted_add
    {weights : Weights Number}
    {first second : Cost Number} :
    (first + second).weighted weights = first.weighted weights + second.weighted weights := by
  have associative : Std.Associative (fun one other : Number => one + other) := ⟨add_assoc⟩
  have commutative : Std.Commutative (fun one other : Number => one + other) := ⟨add_comm⟩
  show (first.network + second.network) * weights.network + (first.disk + second.disk) * weights.disk +
    (first.cpu + second.cpu) * weights.cpu = _
  rw [add_mul, add_mul, add_mul, Cost.weighted, Cost.weighted]
  ac_rfl

end ExactlyAdded

namespace Candidate

/-- The first candidate delivers the same as the second one, and costs no more. -/
structure Substitutes (weights : Weights Number) (candidate original : Candidate Number) : Prop where
  globally_eq : candidate.globally = original.globally
  locally_eq : candidate.locally = original.locally
  parallelism_eq : candidate.parallelism = original.parallelism
  statistics_eq : candidate.statistics = original.statistics
  notDearer : ¬ original.weightedCost weights < candidate.weightedCost weights

namespace Substitutes

variable {weights : Weights Number} {first second third : Candidate Number}

theorem refl
    [StrictlyCompared Number]
    (candidate : Candidate Number) :
    candidate.Substitutes weights candidate :=
  ⟨rfl, rfl, rfl, rfl, StrictlyCompared.irrefl _⟩

theorem trans
    [ExactlyAdded Number]
    (before : first.Substitutes weights second)
    (after : second.Substitutes weights third) :
    first.Substitutes weights third where
  globally_eq := before.globally_eq.trans after.globally_eq
  locally_eq := before.locally_eq.trans after.locally_eq
  parallelism_eq := before.parallelism_eq.trans after.parallelism_eq
  statistics_eq := before.statistics_eq.trans after.statistics_eq
  notDearer := ExactlyAdded.not_lt_trans before.notDearer after.notDearer

/-- The channels from a substitute are those from the candidate that it stands for. -/
theorem channels_eq
    (substitutes : first.Substitutes weights second)
    (request : ChannelRequest)
    (model : CostModel Number) :
    first.channels request model =
      (second.channels request model).map fun channel => { channel with source := first } := by
  simp only [channels, substitutes.globally_eq, substitutes.parallelism_eq, List.map_filterMap]
  congr 1
  funext ship
  simp only [channelBy?, substitutes.globally_eq, substitutes.locally_eq, substitutes.statistics_eq]
  split
  · split <;> rfl
  · rfl

end Substitutes

end Candidate

/-- The channel with a substitute for the candidate at its other end. -/
def Channel.substitute
    (substitute : Candidate Number → Candidate Number)
    (channel : Channel Number (Candidate Number)) :
    Channel Number (Candidate Number) :=
  { channel with source := substitute channel.source }

/-- The assembly on substitutes for what it is built on, with the choices that these rest on. -/
def Assembly.substitute
    (substitute : Candidate Number → Candidate Number)
    (branchPlan : BranchPlan)
    (assembly : Assembly Number) :
    Assembly Number where
  driver := assembly.driver
  inputs := assembly.inputs.map (Channel.substitute substitute)
  branchPlan := branchPlan

section Substitute

variable {weights : Weights Number} {substitute : Candidate Number → Candidate Number}

omit [Arithmetic Number] in
theorem Channel.map_globally_substitute (inputs : List (Channel Number (Candidate Number))) :
    (inputs.map (Channel.substitute substitute)).map Channel.globally = inputs.map Channel.globally := by
  rw [List.map_map]
  rfl

theorem Candidate.not_lt_accumulate_substitute
    [ExactlyAdded Number]
    {inputs : List (Channel Number (Candidate Number))}
    (notDearer : ∀ channel ∈ inputs,
      ¬ channel.source.weightedCost weights < (substitute channel.source).weightedCost weights)
    {total reduced : Cost Number}
    (started : ¬ total.weighted weights < reduced.weighted weights) :
    ¬ (accumulate total inputs).weighted weights <
      (accumulate reduced (inputs.map (Channel.substitute substitute))).weighted weights := by
  induction inputs generalizing total reduced with
  | nil => exact started
  | cons channel rest inductionHypothesis =>
      apply inductionHypothesis fun other isOther => notDearer other (.tail _ isOther)
      simp only [ExactlyAdded.weighted_add]
      apply ExactlyAdded.not_lt_add _ (notDearer channel (.head _))
      exact ExactlyAdded.not_lt_add started (ExactlyAdded.not_lt_refl _)

/-- What is built on substitutes delivers the same as before, and costs no more. -/
theorem Assembly.instantiate_substitute
    [ExactlyAdded Number]
    {assembly : Assembly Number}
    (substitutes : ∀ channel ∈ assembly.inputs, (substitute channel.source).Substitutes weights channel.source)
    (context : NodeContext Number)
    (model : CostModel Number)
    (branchPlan : BranchPlan)
    (number identifier : Nat) :
    ((assembly.substitute substitute branchPlan).instantiate context model number).Substitutes weights
      (assembly.instantiate context model identifier) := by
  have sameGlobals : (assembly.inputs.map (Channel.substitute substitute)).map Channel.globally =
      assembly.inputs.map Channel.globally := Channel.map_globally_substitute _
  have sameLocals : (assembly.inputs.map (Channel.substitute substitute)).map Channel.locally =
      assembly.inputs.map Channel.locally := by
    rw [List.map_map]
    rfl
  have sameStatistics : (assembly.inputs.map (Channel.substitute substitute)).map
      (fun channel => channel.source.statistics) =
        assembly.inputs.map fun channel => channel.source.statistics := by
    rw [List.map_map]
    exact List.map_congr_left fun channel isInput => (substitutes channel isInput).statistics_eq
  have sameSizes : context.drivenSizes (assembly.inputs.map (Channel.substitute substitute)) =
      context.drivenSizes assembly.inputs := by
    simp only [NodeContext.drivenSizes, sameStatistics]
  refine ⟨?_, ?_, rfl, rfl, ?_⟩
  · simp only [instantiate, Assembly.substitute, sameGlobals]
  · simp only [instantiate, Assembly.substitute, sameLocals]
  · simp only [instantiate, Assembly.substitute, Candidate.weightedCost, sameSizes]
    exact Candidate.not_lt_accumulate_substitute (fun channel isInput => (substitutes channel isInput).notDearer)
      (ExactlyAdded.not_lt_refl _)

end Substitute

end Dataflow
