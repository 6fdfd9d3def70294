namespace Dataflow.Text

/-!
# Digits

Natural numbers as digits of a base, of which the greatest is sixteen.
-/

/-- A number in hexadecimal digits. -/
def hexadecimal (number : Nat) : String := String.ofList (Nat.toDigits 16 number)

/-- The value of a digit of a base. -/
def digit? (base : Nat) (character : Char) : Option Nat :=
  let value :=
    if character.isDigit then
      some (character.toNat - '0'.toNat)
    else if 'a' ≤ character.toLower ∧ character.toLower ≤ 'f' then
      some (character.toLower.toNat - 'a'.toNat + 10)
    else
      none
  value.filter fun digit => decide (digit < base)

/-- The number that digits of a base write. -/
def digits? (base : Nat) (text : List Char) : Option Nat :=
  if text.isEmpty then
    none
  else
    text.foldlM (fun number character => (digit? base character).map (number * base + ·)) 0

end Dataflow.Text
