import Dataflow.Decimal.Binary
import Dataflow.Text.Digits
import Dataflow.Text.Yaml.Basic

namespace Dataflow.Text.Yaml

/-!
# YAML numbers

Scalars that are natural numbers or doubles.
-/

/--
The text of a scalar that may be a number of a kind: a plain one, or a literal one with the tag of that
kind.
-/
def numeral? (kind : String) : Yaml → Option String
  | .scalar tag style text =>
      if style = .plain ∨ style = .literal ∧ tag = some ("tag:yaml.org,2002:" ++ kind) then
        some text
      else
        none
  | _ => none

/-- A text without a plus sign in front. -/
def dropPlus : List Char → List Char
  | '+' :: rest => rest
  | text => text

/-- A natural number, in decimal digits without leading zeros or with a base in front. -/
def naturalOfText? (text : String) : Option Nat :=
  match dropPlus text.toList with
  | '0' :: 'x' :: rest => digits? 16 rest
  | '0' :: 'o' :: rest => digits? 8 rest
  | '0' :: 'b' :: rest => digits? 2 rest
  | '0' :: _ :: _ => none
  | decimal => digits? 10 decimal

/-- The natural number that a value is. -/
def natural? (value : Yaml) : Option Nat := (value.numeral? "int").bind naturalOfText?

/-- The exponent behind the digits of a decimal number. -/
def exponent? : List Char → Option Int
  | [] => some 0
  | mark :: rest =>
      if mark == 'e' || mark == 'E' then
        match rest with
        | '-' :: digits => (digits? 10 digits).map fun (number : Nat) => -(number : Int)
        | digits => (digits? 10 (dropPlus digits)).map fun (number : Nat) => (number : Int)
      else
        none

/-- The double nearest to a decimal number, provided that it is finite. -/
def decimal? (negative : Bool) (text : List Char) : Option Float := do
  let whole := text.takeWhile Char.isDigit
  let afterWhole := text.dropWhile Char.isDigit
  let (fraction, afterFraction) :=
    match afterWhole with
    | '.' :: rest => (rest.takeWhile Char.isDigit, rest.dropWhile Char.isDigit)
    | rest => ([], rest)
  let coefficient ← digits? 10 (whole ++ fraction)
  let exponent ← exponent? afterFraction
  let value := Decimal.floatOfDecimal negative coefficient (exponent - fraction.length)
  if value.isFinite then some value else none

/-- A number, which may be infinite or undefined. -/
def numberOfText? (text : String) : Option Float :=
  if [".inf", ".Inf", ".INF", "+.inf", "+.Inf", "+.INF"].contains text then
    some (1.0 / 0.0)
  else if ["-.inf", "-.Inf", "-.INF"].contains text then
    some (-1.0 / 0.0)
  else if [".nan", ".NaN", ".NAN"].contains text then
    some (0.0 / 0.0)
  else
    match text.toList with
    | '-' :: rest => decimal? true rest
    | characters => decimal? false (dropPlus characters)

/-- The number that a value is. -/
def number? (value : Yaml) : Option Float := (value.numeral? "float").bind numberOfText?

end Dataflow.Text.Yaml
