import Dataflow.Candidate.Basic

namespace Dataflow.Candidate

/-!
# Coherent candidates

A candidate rests on all candidates that are reached from it through channels.  Candidates are coherent
when none of the nodes below them is executed in two ways, where candidates are told apart by their
identifiers.
-/

variable {Number : Type}

/-- The second candidate is the first one, or is reached from it through channels. -/
inductive RestsOn : Candidate Number → Candidate Number → Prop where
  | self (candidate : Candidate Number) : RestsOn candidate candidate
  | reads {candidate below : Candidate Number} {channel : Channel Number (Candidate Number)} :
      channel ∈ candidate.inputs →
      RestsOn channel.source below →
      RestsOn candidate below

namespace RestsOn

theorem trans
    {first second third : Candidate Number}
    (before : first.RestsOn second)
    (after : second.RestsOn third) :
    first.RestsOn third := by
  induction before with
  | self candidate => exact after
  | reads isInput _ inductionHypothesis => exact .reads isInput (inductionHypothesis after)

theorem ofInput
    {candidate : Candidate Number}
    {channel : Channel Number (Candidate Number)}
    (isInput : channel ∈ candidate.inputs) :
    candidate.RestsOn channel.source :=
  .reads isInput (.self channel.source)

/-- What a candidate rests on is that candidate, or is read by something that it rests on. -/
theorem eq_or_read
    {candidate below : Candidate Number}
    (rests : candidate.RestsOn below) :
    below = candidate ∨
      ∃ reader, candidate.RestsOn reader ∧ below ∈ reader.inputs.map Channel.source := by
  induction rests with
  | self candidate => exact .inl rfl
  | @reads candidate below channel isInput _ inductionHypothesis =>
      right
      rcases inductionHypothesis with same | ⟨reader, restsOnReader, isRead⟩
      · subst same
        exact ⟨candidate, .self candidate, List.mem_map.mpr ⟨channel, isInput, rfl⟩⟩
      · exact ⟨reader, .reads isInput restsOnReader, isRead⟩

end RestsOn

/-- A candidate with the second identifier executes the node with the first one. -/
def Chooses (candidate : Candidate Number) (node choice : Nat) : Prop :=
  ∃ below, candidate.RestsOn below ∧ below.node.identifier = node ∧ below.identifier = choice

theorem RestsOn.chooses
    {candidate below : Candidate Number}
    (rests : candidate.RestsOn below) :
    candidate.Chooses below.node.identifier below.identifier :=
  ⟨below, rests, rfl, rfl⟩

/-- A candidate makes the choice for its own node, and the choices of the candidates that it reads. -/
theorem chooses_iff
    {candidate : Candidate Number}
    {node choice : Nat} :
    candidate.Chooses node choice ↔
      candidate.node.identifier = node ∧ candidate.identifier = choice ∨
        ∃ source ∈ candidate.inputs.map Channel.source, source.Chooses node choice := by
  constructor
  · rintro ⟨below, rests, isNode, isChoice⟩
    cases rests with
    | self => exact .inl ⟨isNode, isChoice⟩
    | @reads _ _ channel isInput onward =>
        exact .inr ⟨channel.source, List.mem_map.mpr ⟨channel, isInput, rfl⟩, below, onward, isNode, isChoice⟩
  · rintro (⟨isNode, isChoice⟩ | ⟨source, isSource, below, rests, isNode, isChoice⟩)
    · exact ⟨candidate, .self candidate, isNode, isChoice⟩
    · obtain ⟨channel, isInput, rfl⟩ := List.mem_map.mp isSource
      exact ⟨below, .reads isInput rests, isNode, isChoice⟩

@[simp]
theorem chooses_openBranch
    {candidate : Candidate Number}
    {node choice : Nat} :
    candidate.openBranch.Chooses node choice ↔ candidate.Chooses node choice := by
  rw [chooses_iff, chooses_iff]
  rfl

/-- No node is executed in one way by the first candidate and in another way by the second one. -/
def CoherentWith (first second : Candidate Number) : Prop :=
  ∀ node one other, first.Chooses node one → second.Chooses node other → one = other

theorem CoherentWith.symm
    {first second : Candidate Number}
    (coherent : first.CoherentWith second) :
    second.CoherentWith first :=
  fun node one other choosesOne choosesOther => (coherent node other one choosesOther choosesOne).symm

/-- No node is executed in two ways by the candidates. -/
def Coherent (candidates : List (Candidate Number)) : Prop :=
  ∀ first ∈ candidates, ∀ second ∈ candidates, first.CoherentWith second

theorem coherent_cons_iff
    {candidate : Candidate Number}
    {rest : List (Candidate Number)} :
    Coherent (candidate :: rest) ↔
      candidate.CoherentWith candidate ∧ (∀ other ∈ rest, candidate.CoherentWith other) ∧ Coherent rest := by
  constructor
  · intro coherent
    refine ⟨coherent candidate (.head _) candidate (.head _), ?_, ?_⟩
    · intro other member
      exact coherent candidate (.head _) other (.tail _ member)
    · intro first isFirst second isSecond
      exact coherent first (.tail _ isFirst) second (.tail _ isSecond)
  · rintro ⟨alone, withRest, coherentRest⟩ first isFirst second isSecond
    rcases List.mem_cons.mp isFirst with rfl | firstInRest
    · rcases List.mem_cons.mp isSecond with rfl | secondInRest
      · exact alone
      · exact withRest second secondInRest
    · rcases List.mem_cons.mp isSecond with rfl | secondInRest
      · exact (withRest first firstInRest).symm
      · exact coherentRest first firstInRest second secondInRest

end Dataflow.Candidate
