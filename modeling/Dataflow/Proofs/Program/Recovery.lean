import Dataflow.Proofs.Program.Copies
import Dataflow.Proofs.WholeNumber
import Mathlib.Data.List.DropRight

namespace Dataflow

/-!
# Failures of a builder

What a build gives follows from the calls since the one before.  The first call there that found no node to read is
reported, whatever followed it.  Afterwards nothing is left of the failure or of the nodes that were abandoned: the
builder goes on as a new one, with the nodes that its caller holds and the count of the nodes added so far.
-/

namespace Call

variable {Number : Type}

/-- The calls after the last build. -/
def sinceBuild (calls : List (Call Number)) : List (Call Number) :=
  calls.rtakeWhile fun call => !call.isBuild

/-- Whether there is a current node after some calls: one has been started from since the last build. -/
def rooted (calls : List (Call Number)) : Bool :=
  (sinceBuild calls).any starts

/--
The name in the first call since the last build that was to read a node when there was none, since no call before it had
started from one.
-/
def unfed? (calls : List (Call Number)) : Option String :=
  ((sinceBuild calls).takeWhile fun call => !call.starts).findSome? reader?

/-- Whether a call adds a node: sources do, and what reads the current node does when there is one. -/
def adds (before : List (Call Number)) : Call Number → Bool
  | .source _ _ => true
  | call => call.reader?.isSome && rooted before

/-- How many of some calls add a node. -/
def added (calls : List (Call Number)) : Nat :=
  calls.zipIdx.countP fun entry => entry.1.adds (calls.take entry.2)

variable {calls : List (Call Number)} {call : Call Number} {name : String}

theorem sinceBuild_concat :
    sinceBuild (calls ++ [call]) = if call.isBuild then [] else sinceBuild calls ++ [call] := by
  rw [sinceBuild, List.rtakeWhile_concat]
  cases call.isBuild <;> rfl

theorem rooted_concat :
    rooted (calls ++ [call]) = (!call.isBuild && (rooted calls || call.starts)) := by
  rw [rooted, sinceBuild_concat]
  cases call.isBuild <;> simp [rooted]

theorem unfed?_concat_of_build (isBuild : call.isBuild = true) :
    unfed? (calls ++ [call]) = none := by
  simp [unfed?, sinceBuild_concat, isBuild]

/-- Once there is a current node, no further call can miss one. -/
theorem unfed?_concat_of_rooted
    (notBuild : call.isBuild = false)
    (isRooted : rooted calls = true) :
    unfed? (calls ++ [call]) = unfed? calls := by
  have notAll : ((sinceBuild calls).takeWhile fun call => !call.starts) ≠ sinceBuild calls := by
    rw [Ne, List.takeWhile_eq_self_iff]
    simpa [rooted] using isRooted
  have shorter : ((sinceBuild calls).takeWhile fun call => !call.starts).length ≠ (sinceBuild calls).length :=
    fun sameLength => notAll ((List.takeWhile_prefix _).eq_of_length sameLength)
  rw [unfed?, unfed?, sinceBuild_concat, notBuild, if_neg Bool.false_ne_true, List.takeWhile_append,
    if_neg shorter]

theorem unfed?_concat_of_not_rooted
    (notBuild : call.isBuild = false)
    (notRooted : rooted calls = false) :
    unfed? (calls ++ [call]) = (unfed? calls).or call.reader? := by
  have noneStarts : ∀ other ∈ sinceBuild calls, (!other.starts) = true := by
    simpa [rooted] using notRooted
  rw [unfed?, unfed?, sinceBuild_concat, notBuild, if_neg Bool.false_ne_true,
    List.takeWhile_append_of_pos noneStarts, List.takeWhile_eq_self_iff.mpr noneStarts, List.findSome?_append]
  cases call <;> rfl

theorem added_concat :
    added (calls ++ [call]) = added calls + if call.adds calls then 1 else 0 := by
  have sameCount : (calls.zipIdx.countP fun entry => entry.1.adds ((calls ++ [call]).take entry.2)) =
      added calls := by
    refine List.countP_congr fun entry member => ?_
    rw [List.take_append_of_le_length (Nat.le_of_lt (List.snd_lt_of_mem_zipIdx member))]
  rw [added, List.zipIdx_append, List.countP_append, sameCount]
  simp [List.countP_singleton]

/-- A call that reads nothing misses nothing. -/
theorem unfed?_concat_of_reads_nothing
    (notBuild : call.isBuild = false)
    (readsNothing : call.reader? = none) :
    unfed? (calls ++ [call]) = unfed? calls := by
  cases isRooted : rooted calls with
  | true => exact unfed?_concat_of_rooted notBuild isRooted
  | false => rw [unfed?_concat_of_not_rooted notBuild isRooted, readsNothing, Option.or_none]

theorem kind_of_reads
    (reads : call.reader? = some name)
    (calls : List (Call Number)) :
    call.isBuild = false ∧ call.starts = false ∧ call.adds calls = rooted calls := by
  cases call <;> simp_all [reader?, isBuild, starts, adds]

theorem kind_of_declares
    (declares : call.declares = true)
    (calls : List (Call Number)) :
    call.isBuild = false ∧ call.starts = false ∧ call.reader? = none ∧ call.adds calls = false := by
  cases call <;> simp_all [Call.declares, reader?, isBuild, starts, adds]

end Call

/-- Once it has been asked for the current node, a builder is a new one for the nodes that are in the program now. -/
theorem Builder.build_eq_new
    {Number : Type}
    (builder : Builder Number) :
    builder.build.builder =
      { program := builder.build.builder.program, nextIdentifier := builder.nextIdentifier } := by
  obtain ⟨program, root, nextIdentifier, fault⟩ := builder
  cases fault <;> cases root <;> rfl

namespace Session

variable {Number : Type} {session next : Session Number} {calls : List (Call Number)}

/-- What a builder has in mind is what the calls on it say. -/
structure Tracks (session : Session Number) (calls : List (Call Number)) : Prop where
  rooted : session.builder.root.isSome = Call.rooted calls
  fault : session.builder.fault = (Call.unfed? calls).map .missingInput
  nextIdentifier : session.builder.nextIdentifier = Call.added calls

theorem tracks_fresh (program : Program Number) (held : List program.Ref) :
    (fresh program held).Tracks [] :=
  ⟨rfl, rfl, rfl⟩

/-- After a call that reads nothing, only a new current node and a new number are to be accounted for. -/
theorem Tracks.of_reads_nothing
    {call : Call Number}
    (tracks : session.Tracks calls)
    (notBuild : call.isBuild = false)
    (readsNothing : call.reader? = none)
    (rooted_eq : next.builder.root.isSome = (session.builder.root.isSome || call.starts))
    (fault_eq : next.builder.fault = session.builder.fault)
    (count_eq : next.builder.nextIdentifier =
      session.builder.nextIdentifier + if call.adds calls then 1 else 0) :
    next.Tracks (calls ++ [call]) where
  rooted := by rw [rooted_eq, tracks.rooted, Call.rooted_concat, notBuild, Bool.not_false, Bool.true_and]
  fault := by rw [fault_eq, tracks.fault, Call.unfed?_concat_of_reads_nothing notBuild readsNothing]
  nextIdentifier := by rw [count_eq, tracks.nextIdentifier, Call.added_concat]

/-- A call that reads the current node adds one more, or misses it. -/
theorem Tracks.append
    (tracks : session.Tracks calls)
    {call : Call Number}
    {name : String}
    (reads : call.reader? = some name)
    (operator : Operator Number)
    (others : List session.builder.program.Ref)
    (counted : others.length + 1 = operator.arity) :
    (session.advance (session.builder.append name operator others counted)
      (session.builder.growsTo_append ..)).Tracks (calls ++ [call]) := by
  obtain ⟨notBuild, notStarts, adds_eq⟩ := Call.kind_of_reads reads calls
  obtain ⟨⟨program, root, nextIdentifier, fault⟩, held⟩ := session
  obtain ⟨rooted, sameFault, sameCount⟩ := tracks
  cases root with
  | none =>
      refine ⟨?_, ?_, ?_⟩
      · rw [Call.rooted_concat, notBuild, notStarts, ← rooted]
        rfl
      · rw [Call.unfed?_concat_of_not_rooted notBuild rooted.symm, reads, Option.map_or, ← sameFault]
        rfl
      · rw [Call.added_concat, adds_eq, ← rooted]
        exact sameCount
  | some root =>
      refine ⟨?_, ?_, ?_⟩
      · rw [Call.rooted_concat, notBuild, notStarts, ← rooted]
        rfl
      · rw [Call.unfed?_concat_of_rooted notBuild rooted.symm]
        exact sameFault
      · rw [Call.added_concat, adds_eq, ← rooted]
        exact congrArg (· + 1) sameCount

theorem Tracks.ask (tracks : session.Tracks calls) : session.ask.Tracks (calls ++ [.build]) := by
  have asNew := session.builder.build_eq_new
  refine ⟨?_, ?_, ?_⟩
  · rw [Call.rooted_concat]
    exact congrArg (fun builder => builder.root.isSome) asNew
  · rw [Call.unfed?_concat_of_build rfl]
    exact congrArg Builder.fault asNew
  · rw [Call.added_concat]
    exact (congrArg Builder.nextIdentifier asNew).trans tracks.nextIdentifier

theorem tracks_of_run?
    {program : Program Number}
    {held : List program.Ref}
    (ran : (fresh program held).run? calls = some session) :
    session.Tracks calls := by
  refine run?_induction (motive := fun calls session => session.Tracks calls) (tracks_fresh program held) ?_ ran
  intro calls session call next tracks step
  cases step with
  | source name declared => exact tracks.of_reads_nothing rfl rfl (Bool.or_true _).symm rfl rfl
  | startFrom node => exact tracks.of_reads_nothing rfl rfl (Bool.or_true _).symm rfl rfl
  | append reads operator others counted => exact tracks.append reads operator others counted
  | declare declares change keepsWiring keepsIdentifier =>
      obtain ⟨notBuild, notStarts, readsNothing, addsNothing⟩ := Call.kind_of_declares declares calls
      refine tracks.of_reads_nothing notBuild readsNothing ?_ rfl ?_
      · simp [notStarts, advance, Builder.declare]
      · simp [addsNothing, advance, Builder.declare]
  | build => exact tracks.ask

/-- A build gives the current node, or tells what went wrong since the one before. -/
structure Reports (session : Session Number) (calls : List (Call Number)) : Prop where
  rooted : session.builder.root.isSome = Call.rooted calls
  ok_iff : (∃ ref, session.builder.build.outcome = .ok ref) ↔
    Call.unfed? calls = none ∧ session.builder.root.isSome = true
  /-- The first failure counts, whatever the calls after it did. -/
  unfed : ∀ name, Call.unfed? calls = some name →
    session.builder.build.outcome = .error (.invalidOperator (.missingInput name))
  empty : Call.unfed? calls = none → session.builder.root = none →
    session.builder.build.outcome = .error .emptyPlan

theorem Tracks.reports (tracks : session.Tracks calls) : session.Reports calls := by
  obtain ⟨⟨program, root, nextIdentifier, fault⟩, held⟩ := session
  obtain ⟨rooted, sameFault, _⟩ := tracks
  change fault = (Call.unfed? calls).map .missingInput at sameFault
  subst sameFault
  cases unfed : Call.unfed? calls with
  | some name =>
      exact {
        rooted
        ok_iff := by simp [Builder.build, unfed]
        unfed := by simp [Builder.build, unfed]
        empty := by simp [unfed] }
  | none =>
      cases root with
      | none =>
          exact {
            rooted
            ok_iff := by simp [Builder.build, unfed]
            unfed := by simp [unfed]
            empty := by simp [Builder.build, unfed] }
      | some root =>
          exact {
            rooted
            ok_iff := by simp [Builder.build, unfed]
            unfed := by simp [unfed]
            empty := by simp }

/-- Why a build would be refused now. -/
def refusal? (session : Session Number) : Option (PlanError Number) :=
  match session.builder.build.outcome with
  | .ok _ => none
  | .error error => some error

/-- Two callers hold the same nodes, shared between them in the same way, and would be refused for the same reason. -/
structure Indistinguishable (session copy : Session Number) : Prop where
  held : ∃ pairs, session.builder.program.CopiedAs pairs copy.builder.program ∧
    List.Forall₂ pairs session.positions copy.positions
  refusal : session.refusal? = copy.refusal?

theorem Alike.indistinguishable
    {copy : Session Number}
    (alike : session.Alike copy) :
    session.Indistinguishable copy := by
  obtain ⟨pairs, copied⟩ := alike
  refine ⟨⟨pairs, copied.builder.program, copied.held⟩, ?_⟩
  obtain ⟨⟨program, root, nextIdentifier, fault⟩, held⟩ := session
  obtain ⟨⟨otherProgram, otherRoot, otherNext, otherFault⟩, otherHeld⟩ := copy
  obtain ⟨⟨programs, roots, rfl, rfl⟩, _⟩ := copied
  change Option.Rel (Root.CopiedAs pairs) root otherRoot at roots
  cases fault with
  | some fault => rfl
  | none => cases roots <;> rfl

/--
A build gives a node exactly when there is a current one and no call since the build before missed one, and otherwise
names the first call that did, if any.  Afterwards the builder is as good as a new one that counts on from the number of
nodes added so far: for a caller that holds copies of the same nodes, every further sequence of calls on a new builder
comes out the same.
-/
theorem build_reports_and_recovers
    (program : Program Number)
    (held : List program.Ref)
    (calls : List (Call Number))
    (session : Session Number)
    (ran : (fresh program held).run? calls = some session) :
    session.Reports calls ∧ session.call? .build = some session.ask ∧
      session.ask.builder =
        { program := session.ask.builder.program, nextIdentifier := Call.added calls } ∧
      ∀ (store : Program Number) (copies : List store.Ref) (pairs : Nat → Nat → Prop),
        session.ask.builder.program.CopiedAs pairs store →
        List.Forall₂ pairs session.ask.positions (copies.map Fin.val) →
        ∀ later, Option.Rel Indistinguishable (session.ask.run? later)
          ((fresh store copies (Call.added calls)).run? later) := by
  have tracks := tracks_of_run? ran
  have isNew : session.ask.builder =
      { program := session.ask.builder.program, nextIdentifier := Call.added calls } :=
    tracks.nextIdentifier ▸ session.builder.build_eq_new
  refine ⟨tracks.reports, rfl, isNew, fun store copies pairs copied heldPaired later => ?_⟩
  have rootIsNone := congrArg (fun builder => builder.root.isNone) isNew
  have count_eq : session.ask.builder.nextIdentifier = Call.added calls := congrArg Builder.nextIdentifier isNew
  have fault_eq : session.ask.builder.fault = none := congrArg Builder.fault isNew
  have alike : session.ask.Alike (fresh store copies (Call.added calls)) := by
    refine ⟨pairs, ⟨copied, ?_, count_eq, fault_eq⟩, heldPaired⟩
    rw [Option.isNone_iff_eq_none.mp rootIsNone]
    exact .none
  have stillAlike := alike.run? later
  generalize session.ask.run? later = last at stillAlike ⊢
  generalize (fresh store copies (Call.added calls)).run? later = other at stillAlike ⊢
  cases stillAlike with
  | none => exact .none
  | some alike => exact .some alike.indistinguishable

/-- Points are kept.  Then a map has no input, and what follows it is abandoned with a build. -/
def spoiled : List (Call WholeNumber) :=
  [.source "dropped" {}, .source "points" {}, .build, .map "lost" none, .source "late" {}, .map "unread" none]

/-- The points are read. -/
def cleaned : List (Call WholeNumber) := [.startFrom 0, .map "clean" none, .build]

/-- Nothing but the points. -/
def points : Program WholeNumber where
  nodes := #[{ identifier := 1, name := "points", operator := .source {} }]
  fits := by
    intro position inside
    match position, inside with
    | 0, _ => exact ⟨rfl, by simp⟩

/--
The map is named, and then the points are read as by a new builder that counts on from 4, although that one has the new
node at another position.
-/
theorem build_reports_and_recovers_spoiled :
    ∃ session, (fresh {} []).run? spoiled = some session ∧
      session.builder.build.outcome = .error (.invalidOperator (.missingInput "lost")) ∧
      ∃ last other, session.ask.run? cleaned = some last ∧
        (fresh points [⟨0, by decide⟩] 4).run? cleaned = some other ∧
        last.Indistinguishable other ∧ last.positions = [0, 2] ∧ other.positions = [0, 1] := by
  have goesOn : (((fresh {} []).run? spoiled).bind fun session => session.ask.run? cleaned).map positions =
      some [0, 2] := by decide +kernel
  have newGoesOn : ((fresh points [⟨0, by decide⟩] 4).run? cleaned).map positions = some [0, 1] := by
    decide +kernel
  have kept : ((fresh {} []).run? spoiled).map (fun session => session.ask.positions) = some [0] := by
    decide +kernel
  have pointsKept : ((fresh {} []).run? spoiled).map (fun session => session.ask.builder.program.nodes[0]?) =
      some points.nodes[0]? := rfl
  obtain ⟨last, ranOn, lastPositions⟩ := Option.map_eq_some_iff.mp goesOn
  obtain ⟨other, newRanOn, otherPositions⟩ := Option.map_eq_some_iff.mp newGoesOn
  obtain ⟨session, ran, ranOn⟩ := Option.bind_eq_some_iff.mp ranOn
  rw [ran] at kept pointsKept
  have positions_eq : session.ask.positions = [0] := Option.some.inj kept
  obtain ⟨reports, _, _, recovers⟩ := build_reports_and_recovers {} [] spoiled session ran
  have copied : session.ask.builder.program.CopiedAs (fun position place => position = 0 ∧ place = 0) points := by
    constructor
    · rintro position place ⟨rfl, rfl⟩
      exact ⟨_, _, Option.some.inj pointsKept, rfl, rfl, .nil⟩
    · rintro first firstPlace second secondPlace ⟨rfl, rfl⟩ ⟨rfl, rfl⟩
      exact Iff.rfl
  have heldPaired : List.Forall₂ (fun position place => position = 0 ∧ place = 0) session.ask.positions [0] := by
    rw [positions_eq]
    exact .cons ⟨rfl, rfl⟩ .nil
  have same := recovers points [⟨0, by decide⟩] _ copied heldPaired cleaned
  have added_eq : Call.added spoiled = 4 := by decide +kernel
  rw [added_eq, ranOn, newRanOn] at same
  cases same with
  | some indistinguishable =>
      exact ⟨session, ran, reports.unfed "lost" rfl, last, other, ranOn, newRanOn, indistinguishable,
        lastPositions, otherPositions⟩

end Session

end Dataflow
