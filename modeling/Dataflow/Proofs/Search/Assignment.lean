import Dataflow.Proofs.Candidate.Feasibility
import Dataflow.Proofs.Search.BranchPlans

namespace Dataflow.Enumeration

/-!
# Assignments of candidates

Dropping a candidate also drops all that could have been built on it, although what replaces it may rest on
other candidates.  What a run keeps nevertheless is an assignment of a surviving candidate to every visited
node, each built on those assigned to its inputs.  When a candidate on top of the assignment is dropped in
favour of a survivor, the assignment is changed to what the survivor rests on.  This cannot be seen from
the nodes that are not below the survivor, because both candidates have the same branch plan.
-/

variable {Number : Type} [Arithmetic Number] {program : Program Number}
variable {enumeration : Enumeration program} {progress : Progress Number} {done : List program.Ref}

/-- A choice of candidates for visited nodes, each built on the choices for its inputs. -/
structure Assignment
    (progress : Progress Number)
    (done : List program.Ref)
    (choice : program.Ref → Candidate Number) : Prop where
  mem : ∀ ref ∈ done, choice ref ∈ candidatesOf progress ref
  sources_eq : ∀ ref ∈ done,
    (choice ref).inputs.map Channel.source = (program.inputs ref).map choice

namespace Assignment

variable {choice : program.Ref → Candidate Number}

omit [Arithmetic Number] in
theorem nil (choice : program.Ref → Candidate Number) : Assignment progress [] choice :=
  ⟨fun _ isDone => absurd isDone (by simp), fun _ isDone => absurd isDone (by simp)⟩

theorem exists_dependency
    (stage : enumeration.Stage done progress)
    (assignment : Assignment progress done choice)
    {candidate below : Candidate Number}
    (rests : candidate.RestsOn below)
    {ref : program.Ref}
    (isDone : ref ∈ done)
    (isChoice : candidate = choice ref) :
    ∃ other, program.DependsOn ref other ∧ below = choice other := by
  induction rests generalizing ref with
  | self candidate => exact ⟨ref, .self ref, isChoice⟩
  | @reads candidate below channel isInput _ inductionHypothesis =>
      subst isChoice
      have isSource : channel.source ∈ (program.inputs ref).map choice := by
        rw [← assignment.sources_eq ref isDone]
        exact List.mem_map.mpr ⟨channel, isInput, rfl⟩
      obtain ⟨input, readsInput, same⟩ := List.mem_map.mp isSource
      obtain ⟨other, depends, isBelow⟩ :=
        inductionHypothesis (stage.mem_of_dependsOn isDone (.ofInput readsInput)) same.symm
      exact ⟨other, .reads readsInput depends, isBelow⟩

/-- An assigned candidate rests on those assigned to the nodes that its node depends on. -/
theorem restsOn
    (stage : enumeration.Stage done progress)
    (assignment : Assignment progress done choice)
    {ref other : program.Ref}
    (depends : program.DependsOn ref other)
    (isDone : ref ∈ done) :
    (choice ref).RestsOn (choice other) := by
  induction depends with
  | self ref => exact .self (choice ref)
  | @reads ref input other readsInput _ inductionHypothesis =>
      have isSource : choice input ∈ (choice ref).inputs.map Channel.source := by
        rw [assignment.sources_eq ref isDone]
        exact List.mem_map.mpr ⟨input, readsInput, rfl⟩
      obtain ⟨channel, isInput, same⟩ := List.mem_map.mp isSource
      have onward := inductionHypothesis (stage.mem_of_dependsOn isDone (.ofInput readsInput))
      exact .reads isInput (same ▸ onward)

theorem chooses
    (stage : enumeration.Stage done progress)
    (assignment : Assignment progress done choice)
    {ref other : program.Ref}
    (depends : program.DependsOn ref other)
    (isDone : ref ∈ done) :
    (choice ref).Chooses (program.identifier other) (choice other).identifier := by
  have otherDone := stage.mem_of_dependsOn isDone depends
  refine ⟨choice other, assignment.restsOn stage depends isDone, ?_, rfl⟩
  rw [stage.node_eq otherDone (assignment.mem other otherDone)]
  rfl

theorem coherent
    (stage : enumeration.Stage done progress)
    (assignment : Assignment progress done choice)
    {refs : List program.Ref}
    (within : ∀ ref ∈ refs, ref ∈ done) :
    Candidate.Coherent (refs.map choice) := by
  intro first isFirst second isSecond
  obtain ⟨left, isLeft, rfl⟩ := List.mem_map.mp isFirst
  obtain ⟨right, isRight, rfl⟩ := List.mem_map.mp isSecond
  have leftDone := within left isLeft
  have rightDone := within right isRight
  apply stage.coherentWith_of_eq leftDone rightDone (assignment.mem left leftDone)
    (assignment.mem right rightDone)
  intro node isDone one isOne other isOther restsOnOne restsOnOther
  obtain ⟨oneNode, leftDepends, rfl⟩ := assignment.exists_dependency stage restsOnOne leftDone rfl
  obtain ⟨otherNode, rightDepends, rfl⟩ := assignment.exists_dependency stage restsOnOther rightDone rfl
  have oneDone := stage.mem_of_dependsOn leftDone leftDepends
  have otherDone := stage.mem_of_dependsOn rightDone rightDepends
  obtain rfl : oneNode = node := stage.eq_of_mem oneDone isDone (assignment.mem oneNode oneDone) isOne
  obtain rfl : otherNode = oneNode :=
    stage.eq_of_mem otherDone isDone (assignment.mem otherNode otherDone) isOther
  rfl

end Assignment

/-- Coherent candidates of some nodes tell an assignment for all that these depend on. -/
theorem Stage.exists_assignment
    (stage : enumeration.Stage done progress)
    {refs : List program.Ref}
    (within : ∀ ref ∈ refs, ref ∈ done)
    (covers : ∀ ref ∈ done, ∃ above ∈ refs, program.DependsOn above ref)
    {chosen : List (Candidate Number)}
    (isChoice : chosen ∈ combinations (refs.map (candidatesOf progress)))
    (coherent : Candidate.Coherent chosen)
    (elsewhere : Candidate Number) :
    ∃ choice, Assignment progress done choice ∧ refs.map choice = chosen := by
  have each : ∀ ref : program.Ref, ∃ candidate, ref ∈ done →
      candidate ∈ candidatesOf progress ref ∧ ∃ root ∈ chosen, root.RestsOn candidate := by
    intro ref
    by_cases isDone : ref ∈ done
    · obtain ⟨above, isThere, depends⟩ := covers ref isDone
      obtain ⟨root, isRoot, rootThere⟩ := (mem_of_mem_combinations_map isChoice).2 above isThere
      obtain ⟨below, rests, isBelow⟩ := stage.exists_restsOn depends (within above isThere) rootThere
      exact ⟨below, fun _ => ⟨isBelow, root, isRoot, rests⟩⟩
    · exact ⟨elsewhere, fun isThere => absurd isThere isDone⟩
  obtain ⟨choice, isBelow⟩ := Classical.axiomOfChoice each
  have unique : ∀ ref ∈ done, ∀ candidate ∈ candidatesOf progress ref, ∀ root ∈ chosen,
      root.RestsOn candidate → candidate = choice ref := by
    intro ref isDone candidate isCandidate root isRoot rests
    obtain ⟨choiceThere, other, isOther, restsOnChoice⟩ := isBelow ref isDone
    exact stage.eq_of_coherentWith (coherent root isRoot other isOther) isDone isCandidate choiceThere rests
      restsOnChoice
  refine ⟨choice, ⟨fun ref isDone => (isBelow ref isDone).1, ?_⟩, ?_⟩
  · intro ref isDone
    obtain ⟨choiceThere, root, isRoot, rests⟩ := isBelow ref isDone
    rw [← List.map_id ((choice ref).inputs.map Channel.source)]
    apply map_eq_map_of_mem_combinations (stage.sources_mem isDone choiceThere)
    intro input isInput source sourceThere isSource
    obtain ⟨channel, isChannel, rfl⟩ := List.mem_map.mp isSource
    exact unique input (stage.mem_of_dependsOn isDone (.ofInput isInput)) channel.source sourceThere root isRoot
      (rests.trans (.ofInput isChannel))
  · rw [← List.map_id chosen]
    refine (map_eq_map_of_mem_combinations isChoice ?_).symm
    exact fun ref isThere root rootThere isRoot =>
      unique ref (within ref isThere) root rootThere root isRoot (.self root)

/-- What is asked of a node so that it can be executed on any candidates of its inputs. -/
structure Unhindered (enumeration : Enumeration program) (ref : program.Ref) : Prop where
  unforced : (program.node ref).restrictions.shipping = {}
  /-- There is an admitted driver whose channels always fit together. -/
  lenient : ∃ driver ∈ admittedDrivers (program.node ref), ∀ inputs, driver.IsCompatible inputs
  hasKeys : (program.node ref).operator.HasKeys
  somePartition : (program.node ref).parallelism.getD enumeration.defaultParallelism ≠ 0

/-- An unhindered node has a candidate on all coherent candidates of its inputs. -/
theorem exists_produced_on
    {ref : program.Ref}
    (unhindered : enumeration.Unhindered ref)
    {sources : List (Candidate Number)}
    (isChoice : sources ∈ combinations ((program.inputs ref).map (candidatesOf progress)))
    (mergeable : (BranchPlan.merge? (sources.map Candidate.branchPlan)).isSome = true)
    (number : Nat) :
    ∃ candidate ∈ enumeration.produced progress ref number,
      candidate.inputs.map Channel.source = sources := by
  obtain ⟨driver, admitted, compatible⟩ := unhindered.lenient
  obtain ⟨row, isRow⟩ := driver.exists_requirements
  have isDriver : driver ∈ (program.node ref).operator.drivers := (List.mem_filter.mp admitted).1
  have sameLength : sources.length = row.length := by
    rw [length_of_mem_combinations isChoice, List.length_map, length_inputs_eq admitted isRow]
  obtain ⟨channels, areChannels⟩ :
      ∃ channels, channels ∈
        combinations ((enumeration.scope progress ref).channelOptions (driver, row) sources) := by
    apply exists_mem_combinations
    intro options isOption
    obtain ⟨position, inside, rfl⟩ := List.mem_mapIdx.mp isOption
    apply Candidate.exists_mem_channels
    · show (program.node ref).restrictions.shipping.get? position = none
      rw [unhindered.unforced]
      rcases position with _ | _ | position <;> rfl
    · apply Operator.establishable_of_mem_drivers unhindered.hasKeys isDriver isRow
      exact (List.of_mem_zip (List.getElem_mem inside)).2
  obtain ⟨rfl, synthesised⟩ :=
    (AttemptScope.mem_combinations_channelOptions_iff sameLength).mp areChannels
  obtain ⟨merged, isMerged⟩ := Option.isSome_iff_exists.mp mergeable
  have isAssembly :
      { driver, inputs := channels, branchPlan := (enumeration.scope progress ref).narrow merged } ∈
        enumeration.assemblies progress ref :=
    mem_assemblies_iff.mpr ⟨row, isRow, admitted, rfl, isChoice, ⟨merged, isMerged, rfl⟩, synthesised,
      compatible _⟩
  obtain ⟨index, atIndex⟩ := List.mem_iff_getElem?.mp isAssembly
  exact ⟨_, mem_produced_iff.mpr ⟨index, _, atIndex, rfl⟩, rfl⟩

/-- Where a candidate is dropped, another one with the same branch plan is kept. -/
def Represents (enumeration : Enumeration program) : Prop :=
  ∀ produced, ∀ candidate ∈ produced, ∃ survivor ∈ enumeration.keep produced,
    survivor.branchPlan = candidate.branchPlan

/-- Two candidates of a node with the same branch plan make the same choice for a node read elsewhere. -/
theorem Stage.eq_of_branchPlan_eq
    (stage : enumeration.Stage done progress)
    {ref : program.Ref}
    (isThere : ref ∈ enumeration.graph.order)
    (inputsDone : ∀ input ∈ program.inputs ref, input ∈ done)
    {first second : Candidate Number}
    (isFirst : enumeration.Produced progress ref first)
    (isSecond : enumeration.Produced progress ref second)
    (same : first.branchPlan = second.branchPlan)
    {branch : program.Ref}
    (different : branch ≠ ref)
    (isOpen : enumeration.graph.Open ref branch)
    {one other : Nat}
    (choosesOne : first.Chooses (program.identifier branch) one)
    (choosesOther : second.Chooses (program.identifier branch) other) :
    one = other := by
  have exact : ∀ input ∈ program.inputs ref, ∀ source ∈ candidatesOf progress input,
      Exact enumeration.graph input source :=
    fun input isInput source isSource => stage.exact (inputsDone input isInput) isSource
  have foundOne := (stage.branchPlan_of_produced isThere inputsDone exact isFirst).mpr
    ⟨⟨branch, different, rfl, isOpen⟩, choosesOne⟩
  have foundOther := (stage.branchPlan_of_produced isThere inputsDone exact isSecond).mpr
    ⟨⟨branch, different, rfl, isOpen⟩, choosesOther⟩
  rw [same] at foundOne
  exact Option.some.inj (foundOne.symm.trans foundOther)

/-- The assignment that follows a candidate below its node, and is the former one elsewhere. -/
structure Redirects
    (progress : Progress Number)
    (ref : program.Ref)
    (candidate : Candidate Number)
    (former choice : program.Ref → Candidate Number) : Prop where
  below : ∀ other, program.DependsOn ref other →
    candidate.RestsOn (choice other) ∧ choice other ∈ candidatesOf progress other
  elsewhere : ∀ other, ¬ program.DependsOn ref other → choice other = former other

theorem exists_redirects
    (stage : enumeration.Stage done progress)
    {ref : program.Ref}
    (isDone : ref ∈ done)
    {candidate : Candidate Number}
    (isCandidate : candidate ∈ candidatesOf progress ref)
    (former : program.Ref → Candidate Number) :
    ∃ choice, Redirects progress ref candidate former choice := by
  have each : ∀ other : program.Ref, ∃ chosen,
      (program.DependsOn ref other → candidate.RestsOn chosen ∧ chosen ∈ candidatesOf progress other) ∧
        (¬ program.DependsOn ref other → chosen = former other) := by
    intro other
    by_cases depends : program.DependsOn ref other
    · obtain ⟨below, rests, isBelow⟩ := stage.exists_restsOn depends isDone isCandidate
      exact ⟨below, fun _ => ⟨rests, isBelow⟩, fun notBelow => absurd depends notBelow⟩
    · exact ⟨former other, fun isBelow => absurd isBelow depends, fun _ => rfl⟩
  obtain ⟨choice, isChoice⟩ := Classical.axiomOfChoice each
  exact ⟨choice, fun other => (isChoice other).1, fun other => (isChoice other).2⟩

/--
The redirected assignment is one if it is the former one on open branches.  A node that is not below the
candidate reads, of the nodes that are, only these.
-/
theorem Redirects.assignment
    {ref : program.Ref}
    (stage : enumeration.Stage (done ++ [ref]) progress)
    {candidate : Candidate Number}
    (isCandidate : candidate ∈ candidatesOf progress ref)
    {former choice : program.Ref → Candidate Number}
    (redirects : Redirects progress ref candidate former choice)
    (former_mem : ∀ other ∈ done, former other ∈ candidatesOf progress other)
    (former_sources_eq : ∀ other ∈ done,
      (former other).inputs.map Channel.source = (program.inputs other).map former)
    (inputsDone : ∀ other ∈ done, ∀ input ∈ program.inputs other, input ∈ done)
    (isNew : ref ∉ done)
    (unchanged : ∀ branch, branch ≠ ref → enumeration.graph.Open ref branch →
      choice branch = former branch) :
    Assignment progress (done ++ [ref]) choice := by
  have isThere : ref ∈ done ++ [ref] := by simp
  have coherent := (stage.exact isThere isCandidate).coherent
  have inDone : ∀ other ∈ done ++ [ref], ¬ program.DependsOn ref other → other ∈ done := by
    intro other otherThere notBelow
    rcases List.mem_append.mp otherThere with isDone | isRef
    · exact isDone
    · exact absurd (List.mem_singleton.mp isRef ▸ .self ref) notBelow
  constructor
  · intro other otherThere
    by_cases depends : program.DependsOn ref other
    · exact (redirects.below other depends).2
    · rw [redirects.elsewhere other depends]
      exact former_mem other (inDone other otherThere depends)
  · intro other otherThere
    by_cases depends : program.DependsOn ref other
    · obtain ⟨restsOnOther, isOther⟩ := redirects.below other depends
      rw [← List.map_id ((choice other).inputs.map Channel.source)]
      apply map_eq_map_of_mem_combinations (stage.sources_mem otherThere isOther)
      intro input isInput source sourceThere isSource
      obtain ⟨channel, isChannel, rfl⟩ := List.mem_map.mp isSource
      obtain ⟨restsOnInput, inputThere⟩ := redirects.below input (depends.trans (.ofInput isInput))
      exact stage.eq_of_coherentWith coherent (stage.mem_of_dependsOn otherThere (.ofInput isInput))
        sourceThere inputThere (restsOnOther.trans (.ofInput isChannel)) restsOnInput
    · have otherDone := inDone other otherThere depends
      rw [redirects.elsewhere other depends, former_sources_eq other otherDone]
      apply List.map_congr_left
      intro input isInput
      have inputDone := inputsDone other otherDone input isInput
      by_cases inputBelow : program.DependsOn ref input
      · have different : input ≠ ref := fun same => isNew (same ▸ inputDone)
        have isConsumer : other ∈ enumeration.graph.consumers input :=
          Graph.mem_consumers.mpr ⟨stage.mem_order otherThere, isInput⟩
        have isOpen : enumeration.graph.Open ref input :=
          Classical.byContradiction fun notOpen => depends <|
            stage.wellFormed.dependsOn_consumer_of_not_open (stage.mem_order isThere) inputBelow different
              notOpen isConsumer
        exact (unchanged input different isOpen).symm
      · exact (redirects.elsewhere input inputBelow).symm

/-- A visit of an unhindered node succeeds, and there is an assignment afterwards. -/
theorem Assignment.visit
    (stage : enumeration.Stage done progress)
    {former : program.Ref → Candidate Number}
    (assignment : Assignment progress done former)
    (represents : enumeration.Represents)
    {ref : program.Ref}
    (leading : done ++ [ref] <+: enumeration.graph.order)
    (unhindered : enumeration.Unhindered ref) :
    (enumeration.visit progress ref).failure = none ∧
      ∃ choice, Assignment (enumeration.visit progress ref).progress (done ++ [ref]) choice := by
  obtain ⟨inputsDone, isNew, isThere⟩ := stage.inputs_done leading
  have isChoice : (program.inputs ref).map former ∈
      combinations ((program.inputs ref).map (candidatesOf progress)) :=
    map_mem_combinations fun input isInput => assignment.mem input (inputsDone input isInput)
  have mergeable := (stage.isSome_merge?_iff_coherent (stage.wellFormed.inputs_separated isThere)
    inputsDone isChoice).mpr (assignment.coherent stage inputsDone)
  obtain ⟨candidate, isProduced, sources_eq⟩ :=
    exists_produced_on unhindered isChoice mergeable progress.nextCandidate
  obtain ⟨index, assembly, atIndex, _⟩ := mem_produced_iff.mp isProduced
  have succeeded : (enumeration.visit progress ref).failure = none :=
    visit_failure_eq_none_iff.mpr
      ⟨unhindered.somePartition, List.ne_nil_of_mem (List.mem_of_getElem? atIndex)⟩
  refine ⟨succeeded, ?_⟩
  obtain ⟨survivor, isKept, samePlan⟩ := represents _ candidate isProduced
  have later := stage.visit leading succeeded
  have survivorThere : enumeration.opened (program.identifier ref) survivor ∈
      candidatesOf (enumeration.visit progress ref).progress ref := by
    rw [candidatesOf, candidates_visit succeeded, if_pos rfl, survivors_eq_map_opened]
    exact List.mem_map.mpr ⟨survivor, isKept, rfl⟩
  obtain ⟨choice, redirects⟩ := exists_redirects later (by simp) survivorThere former
  refine ⟨choice, redirects.assignment later survivorThere ?_ assignment.sources_eq ?_ isNew ?_⟩
  · intro other otherDone
    rw [stage.candidatesOf_visit leading succeeded otherDone]
    exact assignment.mem other otherDone
  · exact fun other otherDone input isInput => stage.mem_of_dependsOn otherDone (.ofInput isInput)
  · intro branch different isOpen
    obtain ⟨restsOnBranch, branchThere⟩ := redirects.below branch isOpen.depends
    rcases isOpen.depends.eq_or_input with same | ⟨input, isInput, onward⟩
    · exact absurd same different
    · have inputDone := inputsDone input isInput
      have branchDone := stage.mem_of_dependsOn inputDone onward
      have survivorChooses :
          survivor.Chooses (program.identifier branch) (choice branch).identifier := by
        rw [← chooses_opened]
        exact (later.chooses_iff (by simp) (by simp [branchDone]) survivorThere).mpr
          ⟨choice branch, restsOnBranch, branchThere, rfl⟩
      have candidateChooses :
          candidate.Chooses (program.identifier branch) (former branch).identifier := by
        refine Candidate.chooses_iff.mpr (.inr ⟨former input, ?_, assignment.chooses stage onward inputDone⟩)
        rw [sources_eq]
        exact List.mem_map.mpr ⟨input, isInput, rfl⟩
      rw [stage.candidatesOf_visit leading succeeded branchDone] at branchThere
      apply stage.eq_of_choice_eq branchDone branchThere (assignment.mem branch branchDone)
      exact stage.eq_of_branchPlan_eq isThere inputsDone
        (produced_of_mem (stage.keeps _ survivor isKept)) (produced_of_mem isProduced) samePlan different
        isOpen survivorChooses candidateChooses

/-- A run over unhindered nodes succeeds, and there is an assignment for all of them. -/
theorem Assignment.visitAll
    (represents : enumeration.Represents)
    {rest : List program.Ref}
    (stage : enumeration.Stage done progress)
    {former : program.Ref → Candidate Number}
    (assignment : Assignment progress done former)
    (order_eq : enumeration.graph.order = done ++ rest)
    (unhindered : ∀ ref ∈ rest, enumeration.Unhindered ref) :
    (enumeration.visitAll rest progress).failure = none ∧
      ∃ choice, Assignment (enumeration.visitAll rest progress).progress (done ++ rest) choice := by
  induction rest generalizing done progress former with
  | nil => simpa [Enumeration.visitAll] using ⟨former, assignment⟩
  | cons ref rest inductionHypothesis =>
      have regrouped : done ++ ref :: rest = (done ++ [ref]) ++ rest := by simp
      rw [regrouped] at order_eq ⊢
      have leading : done ++ [ref] <+: enumeration.graph.order := ⟨rest, order_eq.symm⟩
      obtain ⟨visited, choice, nextAssignment⟩ :=
        assignment.visit stage represents leading (unhindered ref (.head _))
      rw [visitAll_eq_of_visit visited]
      exact inductionHypothesis (stage.visit leading visited) nextAssignment order_eq
        fun other isOther => unhindered other (.tail _ isOther)

end Dataflow.Enumeration
