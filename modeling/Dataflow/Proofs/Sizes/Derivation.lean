import Dataflow.Statistics

namespace Dataflow

/-!
# Derivation of sizes

A size is estimated from known numbers alone.  The rules below say how a known size of an operator's output follows
from sizes of its inputs and from hints that are known.  An unknown number is nowhere a part of a rule, and a hint that
is not given only leaves the way free for another rule.
-/

namespace Estimate

variable {Number : Type} {first second : Estimate Number} {value : Number}

theorem zipWith_eq_known_iff
    {combine : Number → Number → Number} :
    zipWith combine first second = .known value ↔
      ∃ left right, first = .known left ∧ second = .known right ∧ combine left right = value := by
  cases first <;> cases second <;> simp [zipWith]

theorem orElse_eq_known_iff :
    orElse first second = .known value ↔
      first = .known value ∨ first = .unknown ∧ second = .known value := by
  cases first <;> simp [orElse]

end Estimate

/-- The two sizes of a data set. -/
inductive Measure where
  | records
  | bytes
  deriving Repr, DecidableEq

namespace Statistics

variable {Number : Type}

/-- One of the two sizes. -/
def size (statistics : Statistics Number) : Measure → Estimate Number
  | .records => statistics.records
  | .bytes => statistics.bytes

@[simp]
theorem size_records (statistics : Statistics Number) : statistics.size .records = statistics.records := rfl

@[simp]
theorem size_bytes (statistics : Statistics Number) : statistics.size .bytes = statistics.bytes := rfl

theorem size_unknown (measure : Measure) : ({} : Statistics Number).size measure = .unknown := by
  cases measure <;> rfl

variable [Arithmetic Number]

/-- The average width of the records of a data set follows from its two sizes. -/
inductive HasWidth (statistics : Statistics Number) : Number → Prop where
  | divided {records bytes : Number} :
      statistics.records = .known records →
      statistics.bytes = .known bytes →
      Arithmetic.zero < records →
      HasWidth statistics (bytes / records)

/-- The number of calls of the function behind an operator follows from hints and from sizes of the inputs. -/
inductive DerivesCalls (hints : Hints Number) (inputs : List (Statistics Number)) :
    Operator Number → Number → Prop where
  | map {preserved : Option FieldSet} {records : Number} :
      recordsOf inputs 0 = .known records →
      DerivesCalls hints inputs (.map preserved) records
  /-- A function is called once for each group, and the number of groups may be declared. -/
  | declaredGroups {keys : FieldSet} {combinable : Bool} {preserved : Option FieldSet} {count : Number} :
      hints.distinctCount keys = .known count →
      DerivesCalls hints inputs (.reduce keys combinable preserved) count
  /-- Where the number of groups is not declared, it follows from their declared size. -/
  | sizedGroups {keys : FieldSet} {combinable : Bool} {preserved : Option FieldSet} {records members : Number} :
      hints.distinctCount keys = .unknown →
      recordsOf inputs 0 = .known records →
      hints.groupSize keys = .known members →
      Arithmetic.zero < members →
      DerivesCalls hints inputs (.reduce keys combinable preserved) (records / members)
  | join {keys : JoinKeys} {preserved : InputSlots FieldSet} {first second : Number} :
      recordsOf inputs 0 = .known first →
      recordsOf inputs 1 = .known second →
      DerivesCalls hints inputs (.join keys preserved) (Arithmetic.max first second)
  | cross {preserved : InputSlots FieldSet} {first second : Number} :
      recordsOf inputs 0 = .known first →
      recordsOf inputs 1 = .known second →
      DerivesCalls hints inputs (.cross preserved) (first * second)

/-- The width of an output record is declared, or follows from the widths of the input records. -/
inductive DerivesWidth (hints : Hints Number) : List (Statistics Number) → Number → Prop where
  | declared {inputs : List (Statistics Number)} {width : Number} :
      hints.width = .known width →
      DerivesWidth hints inputs width
  | single {data : Statistics Number} {width : Number} :
      hints.width = .unknown →
      data.HasWidth width →
      DerivesWidth hints [data] width
  | pair {first second : Statistics Number} {firstWidth secondWidth : Number} :
      hints.width = .unknown →
      first.HasWidth firstWidth →
      second.HasWidth secondWidth →
      DerivesWidth hints [first, second] (firstWidth + secondWidth)

/-- A size of an operator's output follows from hints and from sizes of the inputs, or is declared. -/
inductive Derives (hints : Hints Number) (inputs : List (Statistics Number)) :
    Operator Number → Measure → Number → Prop where
  | declared {source : Source Number} {measure : Measure} {value : Number} :
      size ⟨source.records, source.bytes⟩ measure = .known value →
      Derives hints inputs (.source source) measure value
  | consumed {data : Statistics Number} {measure : Measure} {value : Number} :
      inputs.head? = some data →
      data.size measure = .known value →
      Derives hints inputs .sink measure value
  | records {operator : Operator Number} {calls emitted : Number} :
      DerivesCalls hints inputs operator calls →
      hints.emitted = .known emitted →
      Derives hints inputs operator .records (calls * emitted)
  | bytes {operator : Operator Number} {calls emitted width : Number} :
      DerivesCalls hints inputs operator calls →
      hints.emitted = .known emitted →
      DerivesWidth hints inputs width →
      Derives hints inputs operator .bytes (calls * emitted * width)

variable {hints : Hints Number} {inputs : List (Statistics Number)} {operator : Operator Number} {value : Number}

theorem ratio_eq_known_iff
    {dividend divisor : Estimate Number} :
    ratio dividend divisor = .known value ↔
      ∃ whole part, dividend = .known whole ∧ divisor = .known part ∧ Arithmetic.zero < part ∧
        whole / part = value := by
  cases dividend with
  | unknown => simp [ratio]
  | known whole =>
      cases divisor with
      | unknown => simp [ratio]
      | known part => by_cases positive : Arithmetic.zero < part <;> simp [ratio, positive]

theorem averageWidth_eq_known_iff
    {statistics : Statistics Number} :
    statistics.averageWidth = .known value ↔ statistics.HasWidth value := by
  rw [averageWidth, ratio_eq_known_iff]
  constructor
  · rintro ⟨bytes, records, isBytes, isRecords, positive, rfl⟩
    exact .divided isRecords isBytes positive
  · rintro ⟨isRecords, isBytes, positive⟩
    exact ⟨_, _, isBytes, isRecords, positive, rfl⟩

theorem calls_eq_known_iff :
    calls operator hints inputs = .known value ↔ DerivesCalls hints inputs operator value := by
  constructor
  · intro known
    cases operator with
    | source declared => exact nomatch known
    | sink => exact nomatch known
    | map preserved => exact .map known
    | reduce keys combinable preserved =>
        rcases Estimate.orElse_eq_known_iff.mp known with declared | ⟨undeclared, divided⟩
        · exact .declaredGroups declared
        · obtain ⟨records, members, isRecords, isSize, positive, rfl⟩ := ratio_eq_known_iff.mp divided
          exact .sizedGroups undeclared isRecords isSize positive
    | join keys preserved =>
        obtain ⟨first, second, isFirst, isSecond, rfl⟩ := Estimate.zipWith_eq_known_iff.mp known
        exact .join isFirst isSecond
    | cross preserved =>
        obtain ⟨first, second, isFirst, isSecond, rfl⟩ := Estimate.zipWith_eq_known_iff.mp known
        exact .cross isFirst isSecond
  · intro derived
    cases derived with
    | map isRecords => exact isRecords
    | declaredGroups declared => exact Estimate.orElse_eq_known_iff.mpr (.inl declared)
    | sizedGroups undeclared isRecords isSize positive =>
        exact Estimate.orElse_eq_known_iff.mpr
          (.inr ⟨undeclared, ratio_eq_known_iff.mpr ⟨_, _, isRecords, isSize, positive, rfl⟩⟩)
    | join isFirst isSecond => exact Estimate.zipWith_eq_known_iff.mpr ⟨_, _, isFirst, isSecond, rfl⟩
    | cross isFirst isSecond => exact Estimate.zipWith_eq_known_iff.mpr ⟨_, _, isFirst, isSecond, rfl⟩

theorem width_eq_known_iff :
    hints.width.orElse (inheritedWidth inputs) = .known value ↔ DerivesWidth hints inputs value := by
  rw [Estimate.orElse_eq_known_iff]
  constructor
  · rintro (declared | ⟨undeclared, inherited⟩)
    · exact .declared declared
    · match inputs, inherited with
      | [data], inherited => exact .single undeclared (averageWidth_eq_known_iff.mp inherited)
      | [first, second], inherited =>
          obtain ⟨left, right, isLeft, isRight, rfl⟩ := Estimate.zipWith_eq_known_iff.mp inherited
          exact .pair undeclared (averageWidth_eq_known_iff.mp isLeft) (averageWidth_eq_known_iff.mp isRight)
  · intro derived
    cases derived with
    | declared declared => exact .inl declared
    | single undeclared hasWidth => exact .inr ⟨undeclared, averageWidth_eq_known_iff.mpr hasWidth⟩
    | pair undeclared firstWidth secondWidth =>
        exact .inr ⟨undeclared, Estimate.zipWith_eq_known_iff.mpr
          ⟨_, _, averageWidth_eq_known_iff.mpr firstWidth, averageWidth_eq_known_iff.mpr secondWidth, rfl⟩⟩

theorem records_emitted_eq_known_iff :
    (emitted operator hints inputs).records = .known value ↔
      ∃ count factor, DerivesCalls hints inputs operator count ∧ hints.emitted = .known factor ∧
        count * factor = value := by
  simp only [emitted, Estimate.zipWith_eq_known_iff, calls_eq_known_iff]

theorem bytes_emitted_eq_known_iff :
    (emitted operator hints inputs).bytes = .known value ↔
      ∃ records width, (emitted operator hints inputs).records = .known records ∧
        DerivesWidth hints inputs width ∧ records * width = value := by
  simp only [← width_eq_known_iff]
  exact Estimate.zipWith_eq_known_iff

theorem derives_of_size_emitted
    {measure : Measure}
    (known : (emitted operator hints inputs).size measure = .known value) :
    Derives hints inputs operator measure value := by
  cases measure with
  | records =>
      obtain ⟨count, factor, called, emits, rfl⟩ := records_emitted_eq_known_iff.mp known
      exact .records called emits
  | bytes =>
      obtain ⟨records, width, isRecords, isWidth, rfl⟩ := bytes_emitted_eq_known_iff.mp known
      obtain ⟨count, factor, called, emits, rfl⟩ := records_emitted_eq_known_iff.mp isRecords
      exact .bytes called emits isWidth

/-- Only operators with a function are called, and these have the size of what it emits. -/
theorem estimate_eq_emitted
    {count : Number}
    (called : DerivesCalls hints inputs operator count) :
    estimate operator hints inputs = emitted operator hints inputs := by
  cases called <;> rfl

/-- A size of an operator's output is known exactly when a rule derives it from known numbers. -/
theorem size_estimate_eq_known_iff
    {measure : Measure} :
    (estimate operator hints inputs).size measure = .known value ↔
      Derives hints inputs operator measure value := by
  constructor
  · intro known
    cases operator with
    | source declared => exact .declared known
    | sink =>
        cases inputs with
        | nil => exact nomatch (size_unknown measure).symm.trans known
        | cons data rest => exact .consumed rfl known
    | map preserved => exact derives_of_size_emitted known
    | reduce keys combinable preserved => exact derives_of_size_emitted known
    | join keys preserved => exact derives_of_size_emitted known
    | cross preserved => exact derives_of_size_emitted known
  · intro derived
    cases derived with
    | declared known => exact known
    | consumed isFirst known =>
        obtain ⟨rest, rfl⟩ := List.head?_eq_some_iff.mp isFirst
        exact known
    | records called emits =>
        rw [estimate_eq_emitted called]
        exact records_emitted_eq_known_iff.mpr ⟨_, _, called, emits, rfl⟩
    | bytes called emits isWidth =>
        rw [estimate_eq_emitted called]
        have isRecords := records_emitted_eq_known_iff.mpr ⟨_, _, called, emits, rfl⟩
        exact bytes_emitted_eq_known_iff.mpr ⟨_, _, isRecords, isWidth, rfl⟩

end Statistics

end Dataflow
