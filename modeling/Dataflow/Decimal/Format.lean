import Dataflow.Decimal.Shortest

namespace Dataflow.Decimal

/-!
# Decimal formats

How the digits of a number are laid out: a format record for shortest decimals, and a fixed number of
decimal places.
-/

/-- The layout of a shortest decimal. -/
structure Format where
  /-- The exponents of the leading digit for which no exponent is written. -/
  isPositional : Int → Bool
  /-- Whether a whole number without exponent ends in a point and a zero. -/
  keepsPoint : Bool
  /-- Whether a positive exponent carries a sign. -/
  signsExponent : Bool
  tie : Tie

/-- So many zeros. -/
def zeros (count : Nat) : String := String.ofList (List.replicate count '0')

/-- Digits without exponent. -/
def Digits.renderPositional (digits : Digits) (keepsPoint : Bool) : String :=
  let text := (toString digits.coefficient).toList
  let whole := (text.length : Int) + digits.exponent
  if 0 ≤ digits.exponent then
    String.ofList text ++ zeros digits.exponent.toNat ++ if keepsPoint then ".0" else ""
  else if 0 < whole then
    String.ofList (text.take whole.toNat) ++ "." ++ String.ofList (text.drop whole.toNat)
  else
    "0." ++ zeros (-whole).toNat ++ String.ofList text

/-- The exponent of the leading digit. -/
def Digits.leadingExponent (digits : Digits) : Int :=
  ((toString digits.coefficient).length : Int) - 1 + digits.exponent

/-- Digits with a point after the first one and an exponent. -/
def Digits.renderScientific (digits : Digits) (signsExponent : Bool) : String :=
  let text := (toString digits.coefficient).toList
  let exponent := digits.leadingExponent
  let fraction := if text.length ≤ 1 then "" else "." ++ String.ofList (text.drop 1)
  let sign := if signsExponent && decide (0 ≤ exponent) then "+" else ""
  String.ofList (text.take 1) ++ fraction ++ "e" ++ sign ++ toString exponent

/-- A double in a format.  Infinities and values that are not numbers are written as words. -/
def Format.render (format : Format) (value : Float) : String :=
  match Binary.ofFloat value with
  | .notANumber => "NaN"
  | .infinite negative => if negative then "-inf" else "inf"
  | .finite negative significand exponent =>
      let digits := shortest format.tie significand exponent
      let magnitude :=
        if digits.coefficient = 0 || format.isPositional digits.leadingExponent then
          digits.renderPositional format.keepsPoint
        else
          digits.renderScientific format.signsExponent
      if negative then "-" ++ magnitude else magnitude

/-- The format of numbers in explanations: scientific below `10 ^ -4` and from `10 ^ 16`. -/
def Format.exact : Format where
  isPositional leading := decide (-4 ≤ leading ∧ leading < 16)
  keepsPoint := true
  signsExponent := false
  tie := .up

/-- The format of numbers in messages: never scientific, and whole numbers without a point. -/
def Format.plain : Format where
  isPositional _ := true
  keepsPoint := false
  signsExponent := false
  tie := .up

/-- The format of numbers in dumped documents: scientific below `10 ^ -5` and from `10 ^ 16`. -/
def Format.document : Format where
  isPositional leading := decide (-5 ≤ leading ∧ leading < 16)
  keepsPoint := true
  signsExponent := true
  tie := .toEven

/-- A natural number with a point before its last digits, of which there are at least `places`. -/
def insertPoint (places : Nat) (scaled : Nat) : String :=
  let power := tenTo places
  let fraction := toString (scaled % power)
  toString (scaled / power) ++ "." ++ zeros (places - fraction.length) ++ fraction

/--
A double with a fixed positive number of decimal places.  The exact value is rounded, a half going to
the even neighbour, and the sign is kept also when zero remains.
-/
def renderFixed (places : Nat) (value : Float) : String :=
  match Binary.ofFloat value with
  | .notANumber => "NaN"
  | .infinite negative => if negative then "-inf" else "inf"
  | .finite negative significand exponent =>
      let dividend := significand * tenTo places * twoTo exponent.toNat
      let magnitude := insertPoint places (divRound .toEven dividend (twoTo (-exponent).toNat))
      if negative then "-" ++ magnitude else magnitude

end Dataflow.Decimal
