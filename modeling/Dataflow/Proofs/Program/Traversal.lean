import Dataflow.Proofs.Program.Consumers
import Mathlib.Logic.Function.Iterate

namespace Dataflow

/-!
# Traversals with a stack

The nodes below some sinks can also be collected step by step, with a stack of nodes that are to be visited next.  A
node that several others read is pushed by each of them.  The stack runs empty all the same, unless two nodes with
one identifier are met, and what has been visited then are the nodes of the graph above the sinks.
-/

namespace Program

variable {Number : Type} {program : Program Number}

/-- A traversal goes on as long as there are nodes on its stack, and stops with the visited nodes or a fault. -/
inductive Traversal (program : Program Number) where
  | running (visited stack : List program.Ref)
  | stopped (outcome : Except OperatorFault (List program.Ref))

namespace Traversal

/-- Take a node from the stack.  If it is new, it is visited, and its inputs take its place. -/
def step : Traversal program → Traversal program
  | .running visited [] => .stopped (.ok visited)
  | .running visited (ref :: rest) =>
      match visited.find? fun other => program.identifier other == program.identifier ref with
      | some known =>
          if known = ref then
            .running visited rest
          else
            .stopped <| .error <| .sharedIdentifier (program.identifier ref)
              (program.node known).name (program.node ref).name
      | none => .running (visited ++ [ref]) (program.inputs ref ++ rest)
  | .stopped outcome => .stopped outcome

/-- So many steps lead from the first traversal to the second one. -/
def Leads (first second : Traversal program) : Prop :=
  ∃ count, step^[count] first = second

theorem Leads.refl (traversal : Traversal program) : Leads traversal traversal :=
  ⟨0, rfl⟩

theorem Leads.ofStep
    {first second : Traversal program}
    (next : first.step = second) :
    Leads first second :=
  ⟨1, next⟩

theorem Leads.trans
    {first second third : Traversal program}
    (before : Leads first second)
    (after : Leads second third) :
    Leads first third := by
  obtain ⟨earlier, rfl⟩ := before
  obtain ⟨later, rfl⟩ := after
  exact ⟨later + earlier, Function.iterate_add_apply step later earlier first⟩

/-- The traversal with the rest of its stack, after the nodes on top have been visited. -/
def resume (rest : List program.Ref) : Except OperatorFault (List program.Ref) → Traversal program
  | .ok visited => .running visited rest
  | .error fault => .stopped (.error fault)

/-- Nodes on top of the stack are visited one after another. -/
theorem leads_resume_of_each
    {refs : List program.Ref}
    (each : ∀ ref ∈ refs, ∀ visited rest,
      Leads (.running visited (ref :: rest)) (resume rest (program.visit visited ref)))
    (visited rest : List program.Ref) :
    Leads (.running visited (refs ++ rest)) (resume rest (refs.foldlM program.visit visited)) := by
  induction refs generalizing visited with
  | nil => exact .refl _
  | cons ref others inductionHypothesis =>
      have first := each ref (.head others) visited (others ++ rest)
      rw [List.foldlM_cons]
      cases isVisit : program.visit visited ref with
      | error fault =>
          rw [isVisit] at first
          exact first
      | ok grown =>
          rw [isVisit] at first
          exact first.trans (inductionHypothesis (fun other isOther => each other (.tail ref isOther)) grown)

/-- The inputs of a new node are above all that was on the stack before, so the recursion comes to them next. -/
theorem leads_resume_visit
    (ref : program.Ref)
    (visited rest : List program.Ref) :
    Leads (.running visited (ref :: rest)) (resume rest (program.visit visited ref)) := by
  induction position : ref.val using Nat.strongRecOn generalizing ref visited rest with
  | _ position inductionHypothesis =>
      subst position
      rw [visit_eq]
      cases found : visited.find? fun other => program.identifier other == program.identifier ref with
      | some known =>
          apply Leads.ofStep
          by_cases same : known = ref <;> simp [step, found, same, resume]
      | none =>
          have pushed : Leads (.running visited (ref :: rest))
              (.running (visited ++ [ref]) (program.inputs ref ++ rest)) :=
            .ofStep (by simp [step, found])
          have inputsVisited := leads_resume_of_each
            (fun input isInput visited rest =>
              inductionHypothesis input.val (lt_of_mem_inputs isInput) input visited rest rfl)
            (visited ++ [ref]) rest
          exact pushed.trans inputsVisited

/-- Every traversal stops, with the outcome of the recursion. -/
theorem leads_stopped (sinks : List program.Ref) :
    Leads (.running [] sinks) (.stopped (sinks.foldlM program.visit [])) := by
  have visitsAll : Leads (.running [] (sinks ++ [])) (resume [] (sinks.foldlM program.visit [])) :=
    leads_resume_of_each (fun ref _ => leads_resume_visit ref) [] []
  rw [List.append_nil] at visitsAll
  refine visitsAll.trans ?_
  cases sinks.foldlM program.visit [] with
  | ok visited => exact .ofStep rfl
  | error fault => exact .refl _

end Traversal

end Program

namespace Graph

variable {Number : Type} {program : Program Number} {sinks : List program.Ref}

theorem ofSinks_eq_error_iff
    {fault : OperatorFault} :
    ofSinks program sinks = .error fault ↔ sinks.foldlM program.visit [] = .error fault := by
  unfold ofSinks
  cases sinks.foldlM program.visit [] with
  | error other => simp [discard, Functor.discard, Functor.mapConst, Except.map, bind, Except.bind]
  | ok visited =>
      simp [discard, Functor.discard, Functor.mapConst, Except.map, bind, Except.bind, pure, Except.pure]

/-- What is visited are the nodes of the graph, each once. -/
theorem visited_perm_order
    {graph : Graph program}
    {visited : List program.Ref}
    (walked : sinks.foldlM program.visit [] = .ok visited)
    (accepted : ofSinks program sinks = .ok graph) :
    visited.Perm graph.order := by
  obtain ⟨_, rfl⟩ := ofSinks_eq_ok_iff_apart.mp accepted
  have isWalked : program.walk.Walked [] visited sinks := Walk.walked walked
  have nodup : visited.Nodup := (isWalked.apart List.Pairwise.nil).nodup
  refine (List.perm_ext_iff_of_nodup nodup (Program.inputsFirst_dependenciesOf sinks).nodup).mpr ?_
  intro ref
  constructor
  · intro isVisited
    have sinksThere : ∀ sink ∈ sinks, sink ∈ program.dependenciesOf sinks :=
      fun sink isSink => Program.mem_dependenciesOf.mpr ⟨sink, isSink, .self sink⟩
    rcases isWalked.within _ (hereditary_dependenciesOf sinks) sinksThere ref isVisited with inNothing | depended
    · exact absurd inNothing List.not_mem_nil
    · exact depended
  · exact mem_of_walked walked

end Graph

end Dataflow
