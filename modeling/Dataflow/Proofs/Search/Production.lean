import Dataflow.Proofs.Candidate.Synthesis
import Dataflow.Proofs.Search.Combinations
import Dataflow.Search.Enumeration

namespace Dataflow

/-!
# Production of candidates

The candidates that are produced for a node, before any of them is dropped, are those that a row of an
admitted driver gives on agreeing candidates of the inputs and on channels from them.
-/

namespace Driver

theorem length_of_mem_requirements
    {driver : Driver}
    {row : List InputRequirement}
    (member : row ∈ driver.requirements) :
    row.length = driver.arity := by
  obtain ⟨globals, isRow, rfl⟩ := List.mem_map.mp member
  cases driver <;>
    simp only [globalRows, List.mem_cons, List.not_mem_nil, or_false] at isRow
  case cartesianProduct =>
    rcases isRow with same | same <;> subst same <;> rfl
  all_goals
    subst isRow
    rfl

end Driver

namespace AttemptScope

variable {Number : Type} [Arithmetic Number] {scope : AttemptScope Number}

/-- Each channel comes from the source at its position and meets the requirement at its position. -/
structure Fulfils
    (scope : AttemptScope Number)
    (row : Row)
    (sources : List (Candidate Number))
    (channels : List (Channel Number (Candidate Number))) : Prop where
  sources_eq : channels.map Channel.source = sources
  synthesised : ∀ (position : Nat) (channel : Channel Number (Candidate Number))
      (requirement : InputRequirement),
    channels[position]? = some channel →
    row.2[position]? = some requirement →
    channel ∈ channel.source.channels (scope.request row.1 position requirement) scope.model

theorem mem_combinations_channelOptions_iff
    {row : Row}
    {sources : List (Candidate Number)}
    {channels : List (Channel Number (Candidate Number))}
    (sameLength : sources.length = row.2.length) :
    channels ∈ combinations (scope.channelOptions row sources) ↔ scope.Fulfils row sources channels := by
  rw [mem_combinations_iff]
  simp only [channelOptions, List.length_mapIdx, List.length_zip, List.getElem?_mapIdx,
    Option.map_eq_some_iff, List.getElem?_zip_eq_some, Prod.exists]
  constructor
  · rintro ⟨lengthEq, eachChannel⟩
    have sourceAt : ∀ (position : Nat) (channel : Channel Number (Candidate Number))
        (source : Candidate Number) (requirement : InputRequirement),
        channels[position]? = some channel → sources[position]? = some source →
        row.2[position]? = some requirement →
        channel ∈ source.channels (scope.request row.1 position requirement) scope.model := by
      intro position channel source requirement isChannel isSource isRequirement
      exact eachChannel position channel _ isChannel
        ⟨source, requirement, ⟨isSource, isRequirement⟩, rfl⟩
    have sources_eq : channels.map Channel.source = sources := by
      apply List.ext_getElem (by rw [List.length_map]; omega)
      intro position inChannels inSources
      have inRow : position < row.2.length := sameLength ▸ inSources
      rw [List.length_map] at inChannels
      have member := sourceAt position channels[position] sources[position] row.2[position]
        (List.getElem?_eq_getElem inChannels) (List.getElem?_eq_getElem inSources)
        (List.getElem?_eq_getElem inRow)
      rw [List.getElem_map]
      exact (Candidate.synthesised_of_mem_channels member).source_eq
    refine ⟨sources_eq, ?_⟩
    intro position channel requirement isChannel isRequirement
    apply sourceAt position channel channel.source requirement isChannel _ isRequirement
    rw [← sources_eq, List.getElem?_map, isChannel]
    rfl
  · rintro ⟨rfl, synthesised⟩
    rw [List.length_map] at sameLength
    refine ⟨by rw [List.length_map]; omega, ?_⟩
    rintro position channel options isChannel ⟨source, requirement, ⟨isSource, isRequirement⟩, rfl⟩
    rw [List.getElem?_map, isChannel] at isSource
    obtain rfl : channel.source = source := Option.some.inj isSource
    exact synthesised position channel requirement isChannel isRequirement

/-- What remains of merged branch plans at a node. -/
def narrow (scope : AttemptScope Number) (merged : BranchPlan) : BranchPlan :=
  merged.filterKeys fun branch => !scope.closes branch

omit [Arithmetic Number] in
/-- Channels that fit together are assembled. -/
theorem assembly?_attemptOn_eq_some_iff
    {driver : Driver}
    {branchPlan : BranchPlan}
    {channels : List (Channel Number (Candidate Number))}
    {assembly : Assembly Number} :
    (attemptOn driver branchPlan channels).assembly? = some assembly ↔
      driver.IsCompatible (channels.map Channel.globally) ∧
        { driver, inputs := channels, branchPlan } = assembly := by
  unfold attemptOn
  split
  · rename_i compatible
    simp [Attempt.assembly?, compatible]
  · rename_i misaligned
    simp [Attempt.assembly?, misaligned]

/-- What is assembled on a combination of sources: nothing unless their branch plans agree. -/
theorem mem_assembliesFrom_iff
    {row : Row}
    {sources : List (Candidate Number)}
    {assembly : Assembly Number} :
    assembly ∈ (scope.attemptsFrom row sources).filterMap Attempt.assembly? ↔
      ∃ merged, BranchPlan.merge? (sources.map Candidate.branchPlan) = some merged ∧
        ∃ channels ∈ combinations (scope.channelOptions row sources),
          row.1.IsCompatible (channels.map Channel.globally) ∧
            { driver := row.1, inputs := channels, branchPlan := scope.narrow merged } = assembly := by
  unfold attemptsFrom
  cases BranchPlan.merge? (sources.map Candidate.branchPlan) with
  | none => simp [Attempt.assembly?]
  | some merged =>
      simp only [List.filterMap_map, List.mem_filterMap, Function.comp_apply, assembly?_attemptOn_eq_some_iff,
        Option.some.injEq, exists_eq_left']
      rfl

/-- The facts about an assembly that a successful attempt on a row gives. -/
structure Succeeds
    (scope : AttemptScope Number)
    (row : Row)
    (assembly : Assembly Number) : Prop where
  driver_eq : assembly.driver = row.1
  fromInputs : assembly.inputs.map Channel.source ∈ combinations scope.inputs
  merged : ∃ merged,
    BranchPlan.merge? ((assembly.inputs.map Channel.source).map Candidate.branchPlan) = some merged ∧
      assembly.branchPlan = scope.narrow merged
  synthesised : ∀ (position : Nat) (channel : Channel Number (Candidate Number))
      (requirement : InputRequirement),
    assembly.inputs[position]? = some channel →
    row.2[position]? = some requirement →
    channel ∈ channel.source.channels (scope.request row.1 position requirement) scope.model
  compatible : row.1.IsCompatible (assembly.inputs.map Channel.globally)

/-- The attempts on a row that succeed are those with agreeing sources and fitting channels. -/
theorem mem_assemblies_iff
    {row : Row}
    (sameLength : scope.inputs.length = row.2.length)
    {assembly : Assembly Number} :
    assembly ∈ (scope.attempts row).filterMap Attempt.assembly? ↔ scope.Succeeds row assembly := by
  rw [attempts, List.filterMap_flatMap]
  simp only [List.mem_flatMap, mem_assembliesFrom_iff]
  constructor
  · rintro ⟨sources, fromInputs, merged, isMerged, channels, areChannels, compatible, rfl⟩
    have sourcesLength : sources.length = row.2.length :=
      (length_of_mem_combinations fromInputs).trans sameLength
    obtain ⟨rfl, synthesised⟩ := (mem_combinations_channelOptions_iff sourcesLength).mp areChannels
    exact ⟨rfl, fromInputs, ⟨merged, isMerged, rfl⟩, synthesised, compatible⟩
  · intro succeeds
    obtain ⟨merged, isMerged, branchPlan_eq⟩ := succeeds.merged
    have sourcesLength : (assembly.inputs.map Channel.source).length = row.2.length :=
      (length_of_mem_combinations succeeds.fromInputs).trans sameLength
    have areChannels := (mem_combinations_channelOptions_iff sourcesLength).mpr
      ⟨rfl, succeeds.synthesised⟩
    refine ⟨_, succeeds.fromInputs, merged, isMerged, assembly.inputs, areChannels, succeeds.compatible, ?_⟩
    rw [← succeeds.driver_eq, ← branchPlan_eq]

end AttemptScope

namespace Enumeration

variable {Number : Type} [Arithmetic Number] {program : Program Number}

/-- The assemblies of all successful attempts on a node. -/
def assemblies
    (enumeration : Enumeration program)
    (progress : Progress Number)
    (ref : program.Ref) :
    List (Assembly Number) :=
  ((AttemptScope.rows (admittedDrivers (program.node ref))).flatMap
    (enumeration.scope progress ref).attempts).filterMap Attempt.assembly?

/-- The candidates of a node before any of them is dropped, with identifiers from a number on. -/
def produced
    (enumeration : Enumeration program)
    (progress : Progress Number)
    (ref : program.Ref)
    (number : Nat) :
    List (Candidate Number) :=
  instantiateAll (enumeration.scope progress ref) number (enumeration.assemblies progress ref)

variable {enumeration : Enumeration program} {progress : Progress Number} {ref : program.Ref}

theorem mem_rows_iff
    {drivers : List Driver}
    {row : Row} :
    row ∈ AttemptScope.rows drivers ↔ row.1 ∈ drivers ∧ row.2 ∈ row.1.requirements := by
  obtain ⟨driver, requirements⟩ := row
  simp [AttemptScope.rows]

omit [Arithmetic Number] in
/-- A row of an admitted driver has one requirement for each input of the node. -/
theorem length_inputs_eq
    {driver : Driver}
    {requirements : List InputRequirement}
    (admitted : driver ∈ admittedDrivers (program.node ref))
    (isRow : requirements ∈ driver.requirements) :
    (program.inputs ref).length = requirements.length := by
  have isDriver : driver ∈ (program.node ref).operator.drivers := (List.mem_filter.mp admitted).1
  have inputCount := (program.node_fits ref).inputCount
  rw [Driver.length_of_mem_requirements isRow, Operator.arity_of_mem_drivers isDriver, ← inputCount]
  simp [Program.inputs]

theorem mem_assemblies_iff
    {assembly : Assembly Number} :
    assembly ∈ enumeration.assemblies progress ref ↔
      ∃ requirements ∈ assembly.driver.requirements,
        assembly.driver ∈ admittedDrivers (program.node ref) ∧
          (enumeration.scope progress ref).Succeeds (assembly.driver, requirements) assembly := by
  have scopeInputs : (enumeration.scope progress ref).inputs.length = (program.inputs ref).length := by
    simp [scope]
  rw [assemblies, List.filterMap_flatMap, List.mem_flatMap]
  constructor
  · rintro ⟨row, isRow, isAssembly⟩
    obtain ⟨admitted, isRequirement⟩ := mem_rows_iff.mp isRow
    have sameLength := scopeInputs.trans (length_inputs_eq admitted isRequirement)
    have succeeds := (AttemptScope.mem_assemblies_iff sameLength).mp isAssembly
    obtain ⟨driver, requirements⟩ := row
    obtain rfl : assembly.driver = driver := succeeds.driver_eq
    exact ⟨requirements, isRequirement, admitted, succeeds⟩
  · rintro ⟨requirements, isRequirement, admitted, succeeds⟩
    have sameLength : _ = requirements.length := scopeInputs.trans (length_inputs_eq admitted isRequirement)
    exact ⟨(assembly.driver, requirements), mem_rows_iff.mpr ⟨admitted, isRequirement⟩,
      (AttemptScope.mem_assemblies_iff sameLength).mpr succeeds⟩

theorem mem_produced_iff
    {number : Nat}
    {candidate : Candidate Number} :
    candidate ∈ enumeration.produced progress ref number ↔
      ∃ (index : Nat) (assembly : Assembly Number),
        (enumeration.assemblies progress ref)[index]? = some assembly ∧
          candidate = assembly.instantiate (enumeration.context progress ref) enumeration.model
            (number + index) := by
  simp only [produced, instantiateAll, List.mem_mapIdx, List.getElem?_eq_some_iff]
  constructor
  · rintro ⟨index, inside, rfl⟩
    exact ⟨index, _, ⟨inside, rfl⟩, rfl⟩
  · rintro ⟨index, _, ⟨inside, rfl⟩, rfl⟩
    exact ⟨index, inside, rfl⟩

end Enumeration

end Dataflow
