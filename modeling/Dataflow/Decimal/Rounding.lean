namespace Dataflow.Decimal

/-!
# Rounding quotients

The quotient of two natural numbers, rounded to a nearest natural number.  The two directions in which
an exact half can go are the only freedom.
-/

/-- Where a value goes that lies half way between its two neighbours. -/
inductive Tie where
  | toEven
  | up
  deriving Repr, DecidableEq

/-- Whether a value above `floor` by `remainder / divisor` rounds to the upper neighbour. -/
def Tie.roundsUp (tie : Tie) (floor remainder divisor : Nat) : Bool :=
  if 2 * remainder = divisor then
    match tie with
    | .toEven => decide (floor % 2 = 1)
    | .up => true
  else
    decide (divisor < 2 * remainder)

/-- The natural number nearest to a quotient. -/
def divRound (tie : Tie) (dividend divisor : Nat) : Nat :=
  let floor := dividend / divisor
  if tie.roundsUp floor (dividend % divisor) divisor then floor + 1 else floor

/-- The rounded quotient is at most half a unit away from the exact one. -/
theorem divRound_within_half
    (tie : Tie)
    (dividend : Nat)
    {divisor : Nat}
    (positive : 0 < divisor) :
    2 * dividend ≤ 2 * (divRound tie dividend divisor * divisor) + divisor ∧
      2 * (divRound tie dividend divisor * divisor) ≤ 2 * dividend + divisor := by
  have division : dividend / divisor * divisor + dividend % divisor = dividend :=
    Nat.div_add_mod' dividend divisor
  unfold divRound
  simp only
  split
  · rename_i goesUp
    have large : divisor ≤ 2 * (dividend % divisor) := by
      unfold Tie.roundsUp at goesUp
      split at goesUp
      · omega
      · exact Nat.le_of_lt (by simpa using goesUp)
    rw [Nat.add_mul, Nat.one_mul]
    generalize dividend / divisor * divisor = whole at division ⊢
    have small := Nat.mod_lt dividend positive
    omega
  · rename_i staysDown
    have small : 2 * (dividend % divisor) ≤ divisor := by
      unfold Tie.roundsUp at staysDown
      split at staysDown
      · omega
      · exact Nat.le_of_not_lt (by simpa using staysDown)
    generalize dividend / divisor * divisor = whole at division ⊢
    omega

end Dataflow.Decimal
