import Dataflow.Proofs.Candidate.Merging
import Dataflow.Proofs.Search.Stage

namespace Dataflow.Enumeration

/-!
# Exactness of branch plans

The branch plan of a candidate lists its choices for the open branches of its node, and no others.  This
is enough to find every disagreement between candidates: a node below both of them that is not open at
one of them is only read by nodes below that one, so a disagreement on it comes with a disagreement on a
node closer to the two.  At the last such node there is an entry in both branch plans.
-/

variable {Number : Type} [Arithmetic Number] {program : Program Number}
variable {enumeration : Enumeration program} {progress : Progress Number} {done : List program.Ref}

/-- A candidate executes no node in two ways, and its branch plan has its choices for open branches. -/
structure Exact (graph : Graph program) (ref : program.Ref) (candidate : Candidate Number) : Prop where
  coherent : candidate.CoherentWith candidate
  branchPlan_iff : ∀ {identifier choice : Nat},
    candidate.branchPlan.get? identifier = some choice ↔
      (∃ branch, program.identifier branch = identifier ∧ graph.Open ref branch) ∧
        candidate.Chooses identifier choice

namespace Stage

variable {left right : program.Ref} {first second : Candidate Number}

/-- Two nodes have coherent candidates when they have them at every node where both meet again. -/
theorem coherentWith_of_eq
    (stage : enumeration.Stage done progress)
    (leftDone : left ∈ done)
    (rightDone : right ∈ done)
    (isFirst : first ∈ candidatesOf progress left)
    (isSecond : second ∈ candidatesOf progress right)
    (same : ∀ node ∈ done, ∀ one ∈ candidatesOf progress node, ∀ other ∈ candidatesOf progress node,
      first.RestsOn one → second.RestsOn other → one = other) :
    first.CoherentWith second := by
  rintro node _ _ ⟨one, restsOnOne, isNode, rfl⟩ ⟨other, restsOnOther, sameNode, rfl⟩
  obtain ⟨oneNode, leftDepends, isOne⟩ := stage.exists_dependency restsOnOne leftDone isFirst
  obtain ⟨otherNode, rightDepends, isOther⟩ := stage.exists_dependency restsOnOther rightDone isSecond
  have oneDone := stage.mem_of_dependsOn leftDone leftDepends
  have otherDone := stage.mem_of_dependsOn rightDone rightDepends
  rw [stage.node_eq oneDone isOne] at isNode
  rw [stage.node_eq otherDone isOther] at sameNode
  obtain rfl : oneNode = otherNode :=
    stage.eq_of_identifier_eq oneDone otherDone (isNode.trans sameNode.symm)
  rw [same oneNode oneDone one isOne other isOther restsOnOne restsOnOther]

/-- A coherent candidate rests on one candidate of each node. -/
theorem eq_of_coherentWith
    (stage : enumeration.Stage done progress)
    (coherent : first.CoherentWith second)
    {node : program.Ref}
    (isDone : node ∈ done)
    {one other : Candidate Number}
    (isOne : one ∈ candidatesOf progress node)
    (isOther : other ∈ candidatesOf progress node)
    (restsOnOne : first.RestsOn one)
    (restsOnOther : second.RestsOn other) :
    one = other := by
  apply stage.eq_of_choice_eq isDone isOne isOther
  apply coherent one.node.identifier one.identifier other.identifier restsOnOne.chooses
  rw [stage.node_eq isDone isOne, ← stage.node_eq isDone isOther]
  exact restsOnOther.chooses

theorem dependsOn_of_restsOn
    (stage : enumeration.Stage done progress)
    (leftDone : left ∈ done)
    (isFirst : first ∈ candidatesOf progress left)
    {node : program.Ref}
    (isDone : node ∈ done)
    {below : Candidate Number}
    (isBelow : below ∈ candidatesOf progress node)
    (rests : first.RestsOn below) :
    program.DependsOn left node := by
  obtain ⟨other, depends, isThere⟩ := stage.exists_dependency rests leftDone isFirst
  have otherDone := stage.mem_of_dependsOn leftDone depends
  exact stage.eq_of_mem otherDone isDone isThere isBelow ▸ depends

/--
Where a node is not open at the left one, the readers of it that the right one rests on are below the left
one as well.  If the two candidates agree on these readers, they agree on the node.
-/
theorem eq_of_not_open
    (stage : enumeration.Stage done progress)
    (leftDone : left ∈ done)
    (rightDone : right ∈ done)
    (separated : enumeration.graph.Separated left right)
    (isFirst : first ∈ candidatesOf progress left)
    (isSecond : second ∈ candidatesOf progress right)
    (coherent : first.CoherentWith first)
    {node : program.Ref}
    (isDone : node ∈ done)
    (notOpen : ¬ enumeration.graph.Open left node)
    (later : ∀ reader ∈ done, node < reader →
      ∀ one ∈ candidatesOf progress reader, ∀ other ∈ candidatesOf progress reader,
        first.RestsOn one → second.RestsOn other → one = other)
    {one other : Candidate Number}
    (isOne : one ∈ candidatesOf progress node)
    (isOther : other ∈ candidatesOf progress node)
    (restsOnOne : first.RestsOn one)
    (restsOnOther : second.RestsOn other) :
    one = other := by
  have leftDepends := stage.dependsOn_of_restsOn leftDone isFirst isDone isOne restsOnOne
  have rightDepends := stage.dependsOn_of_restsOn rightDone isSecond isDone isOther restsOnOther
  have notLeft : node ≠ left := by
    rintro rfl
    exact notOpen (.self (separated.back rightDepends).branching)
  have notRight : node ≠ right := by
    rintro rfl
    exact notOpen (separated.forth leftDepends)
  rcases restsOnOther.eq_or_read with rfl | ⟨reader, restsOnReader, isRead⟩
  · -- Only the right node itself has the second candidate.
    have back := stage.dependsOn_of_restsOn isDone isOther rightDone isSecond (.self _)
    exact absurd (rightDepends.antisymm back).symm notRight
  · obtain ⟨readerNode, rightReads, isReader⟩ :=
      stage.exists_dependency restsOnReader rightDone isSecond
    have readerDone := stage.mem_of_dependsOn rightDone rightReads
    obtain ⟨input, isInput, isThere⟩ :=
      (mem_of_mem_combinations_map (stage.sources_mem readerDone isReader)).1 other isRead
    have inputDone := stage.mem_of_dependsOn readerDone (.ofInput isInput)
    obtain rfl : input = node := stage.eq_of_mem inputDone isDone isThere isOther
    have isConsumer := Graph.mem_consumers.mpr ⟨stage.mem_order readerDone, isInput⟩
    have leftReads := stage.wellFormed.dependsOn_consumer_of_not_open (stage.mem_order leftDone)
      leftDepends notLeft notOpen isConsumer
    obtain ⟨sameReader, restsOnSame, isSame⟩ := stage.exists_restsOn leftReads leftDone isFirst
    obtain rfl := later readerNode readerDone (Program.lt_of_mem_inputs isInput) sameReader isSame
      reader isReader restsOnSame restsOnReader
    obtain ⟨channel, isChannel, rfl⟩ := List.mem_map.mp isRead
    exact stage.eq_of_coherentWith coherent isDone isOne isOther restsOnOne
      (restsOnSame.trans (.ofInput isChannel))

/-- Candidates of separated nodes are coherent when their branch plans agree. -/
theorem coherentWith_of_agree
    (stage : enumeration.Stage done progress)
    (leftDone : left ∈ done)
    (rightDone : right ∈ done)
    (separated : enumeration.graph.Separated left right)
    (isFirst : first ∈ candidatesOf progress left)
    (isSecond : second ∈ candidatesOf progress right)
    (exactFirst : Exact enumeration.graph left first)
    (exactSecond : Exact enumeration.graph right second)
    (agree : ∀ branch one other,
      first.branchPlan.get? branch = some one → second.branchPlan.get? branch = some other → one = other) :
    first.CoherentWith second := by
  apply stage.coherentWith_of_eq leftDone rightDone isFirst isSecond
  intro node
  induction distance : program.size - node.val using Nat.strongRecOn generalizing node with
  | _ distance inductionHypothesis =>
      subst distance
      intro isDone one isOne other isOther restsOnOne restsOnOther
      have later : ∀ reader ∈ done, node < reader →
          ∀ one ∈ candidatesOf progress reader, ∀ other ∈ candidatesOf progress reader,
            first.RestsOn one → second.RestsOn other → one = other := by
        intro reader readerDone isLater
        have closer : program.size - reader.val < program.size - node.val := by
          have inside := reader.isLt
          have isGreater : node.val < reader.val := isLater
          omega
        exact inductionHypothesis _ closer reader rfl readerDone
      by_cases leftOpen : enumeration.graph.Open left node
      · by_cases rightOpen : enumeration.graph.Open right node
        · have choosesOne := (stage.chooses_iff leftDone isDone isFirst).mpr ⟨one, restsOnOne, isOne, rfl⟩
          have choosesOther :=
            (stage.chooses_iff rightDone isDone isSecond).mpr ⟨other, restsOnOther, isOther, rfl⟩
          exact stage.eq_of_choice_eq isDone isOne isOther <|
            agree (program.identifier node) one.identifier other.identifier
              (exactFirst.branchPlan_iff.mpr ⟨⟨node, rfl, leftOpen⟩, choosesOne⟩)
              (exactSecond.branchPlan_iff.mpr ⟨⟨node, rfl, rightOpen⟩, choosesOther⟩)
        · refine (stage.eq_of_not_open rightDone leftDone separated.symm isSecond isFirst
            exactSecond.coherent isDone rightOpen ?_ isOther isOne restsOnOther restsOnOne).symm
          intro reader readerDone isLater two isTwo one isOne restsOnTwo restsOnOne
          exact (later reader readerDone isLater one isOne two isTwo restsOnOne restsOnTwo).symm
      · exact stage.eq_of_not_open leftDone rightDone separated isFirst isSecond exactFirst.coherent isDone
          leftOpen later isOne isOther restsOnOne restsOnOther

/-- Candidates of pairwise separated nodes are coherent exactly when their branch plans agree. -/
theorem agree_iff_coherent
    (stage : enumeration.Stage done progress)
    {refs : List program.Ref}
    (separated : refs.Pairwise enumeration.graph.Separated)
    (within : ∀ ref ∈ refs, ref ∈ done)
    (exact : ∀ ref ∈ refs, ∀ candidate ∈ candidatesOf progress ref, Exact enumeration.graph ref candidate)
    {chosen : List (Candidate Number)}
    (isChoice : chosen ∈ combinations (refs.map (candidatesOf progress))) :
    BranchPlan.Agree (chosen.map Candidate.branchPlan) ↔ Candidate.Coherent chosen := by
  constructor
  · intro agree
    induction refs generalizing chosen with
    | nil =>
        obtain rfl : chosen = [] := by simpa using isChoice
        intro first isFirst
        exact absurd isFirst (by simp)
    | cons ref rest inductionHypothesis =>
        rw [List.map_cons, mem_combinations_cons] at isChoice
        obtain ⟨first, isFirst, others, inRest, rfl⟩ := isChoice
        obtain ⟨fromFirst, separatedRest⟩ := List.pairwise_cons.mp separated
        have exactFirst := exact ref (.head _) first isFirst
        rw [Candidate.coherent_cons_iff]
        refine ⟨exactFirst.coherent, ?_, ?_⟩
        · intro second isSecond
          obtain ⟨node, isNode, isThere⟩ := (mem_of_mem_combinations_map inRest).1 second isSecond
          apply stage.coherentWith_of_agree (within ref (.head _)) (within node (.tail _ isNode))
            (fromFirst node isNode) isFirst isThere exactFirst (exact node (.tail _ isNode) second isThere)
          exact agree first.branchPlan (by simp) second.branchPlan
            (List.mem_map.mpr ⟨second, .tail _ isSecond, rfl⟩)
        · refine inductionHypothesis separatedRest (fun node isNode => within node (.tail _ isNode))
            (fun node isNode => exact node (.tail _ isNode)) inRest ?_
          intro plan isPlan other isOther
          exact agree plan (.tail _ isPlan) other (.tail _ isOther)
  · intro coherent plan isPlan other isOther branch one two foundOne foundTwo
    obtain ⟨first, isFirst, rfl⟩ := List.mem_map.mp isPlan
    obtain ⟨second, isSecond, rfl⟩ := List.mem_map.mp isOther
    obtain ⟨left, isLeft, firstThere⟩ := (mem_of_mem_combinations_map isChoice).1 first isFirst
    obtain ⟨right, isRight, secondThere⟩ := (mem_of_mem_combinations_map isChoice).1 second isSecond
    exact coherent first isFirst second isSecond branch one two
      ((exact left isLeft first firstThere).branchPlan_iff.mp foundOne).2
      ((exact right isRight second secondThere).branchPlan_iff.mp foundTwo).2

end Stage

end Dataflow.Enumeration
