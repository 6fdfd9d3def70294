import Dataflow.Text.Digits
import Dataflow.Text.Yaml.Place
import Dataflow.Text.Yaml.Token

namespace Dataflow.Text.Yaml

/-!
# YAML tags

A tag says what kind of value follows.  It is a handle with a suffix, and a document may declare what
its handles stand for.
-/

/-- The punctuation of tags, brackets and commas apart. -/
def tagPunctuation : List Char :=
  ['_', '-', ';', '/', '?', ':', '@', '&', '=', '+', '$', '.', '%', '!', '~', '*', '\x27', '(', ')']

/-- Whether a character may stand in a tag; some may only where its end is marked. -/
def isTagCharacter (isMarked : Bool) (character : Char) : Bool :=
  character.isAlphanum || tagPunctuation.contains character ||
    (isMarked && [',', '[', ']'].contains character)

/-- The number of octets behind a leading one, and its share in the number of the character. -/
def leadingOctet? (octet : Nat) : Option (Nat × Nat) :=
  if octet < 0x80 then
    some (0, octet)
  else if octet < 0xc0 then
    none
  else if octet < 0xe0 then
    some (1, octet - 0xc0)
  else if octet < 0xf0 then
    some (2, octet - 0xe0)
  else if octet < 0xf8 then
    some (3, octet - 0xf0)
  else
    none

/-- The character that several octets encode; a replacement stands for all that they cannot. -/
def wideCharacter (number : Nat) : Char :=
  if 0x80 ≤ number ∧ number.isValidChar then Char.ofNat number else '\ufffd'

/--
The characters of a tag in which octets may be escaped by a percent sign, with the octets missing of a
character and its number so far.
-/
def unescapeFrom? (missing number : Nat) : List Char → Option (List Char)
  | [] => if missing = 0 then some [] else none
  | '%' :: high :: low :: rest => do
      let octet := (← digit? 16 high) * 16 + (← digit? 16 low)
      if missing = 0 then
        let (further, share) ← leadingOctet? octet
        if further = 0 then
          return Char.ofNat share :: (← unescapeFrom? 0 0 rest)
        else
          unescapeFrom? further share rest
      else if 0x80 ≤ octet ∧ octet < 0xc0 then
        let next := number * 0x40 + (octet - 0x80)
        if missing = 1 then
          return wideCharacter next :: (← unescapeFrom? 0 0 rest)
        else
          unescapeFrom? (missing - 1) next rest
      else
        none
  | character :: rest =>
      if missing = 0 ∧ character ≠ '%' then do
        return character :: (← unescapeFrom? 0 0 rest)
      else
        none

/-- The text of a tag or of a part of it, which ends at an escaped zero. -/
def tagText? (written : List Char) : Option String := do
  let text ← unescapeFrom? 0 0 written
  return String.ofList (text.takeWhile (· != '\x00'))

/-- The characters of a tag at the start of some places, and the places behind them. -/
def splitTag (isMarked : Bool) (places : List Place) : List Char × List Place :=
  let isPart (place : Place) : Bool := isTagCharacter isMarked place.character
  (characters (places.takeWhile isPart), places.dropWhile isPart)

/-- A tag between angle brackets, from the places behind the opening one. -/
def verbatimTag? (places : List Place) : Option (Token × List Place) := do
  let (written, after) := splitTag true places
  if written.isEmpty || !startsWith after '>' then
    none
  else
    return (.tag "" (← tagText? written), after.tail)

/--
A tag with a handle between exclamation marks or with the handle of one mark, from the places behind the
first mark.  A mark alone is a tag without a handle.
-/
def shortTag? (places : List Place) : Option (Token × List Place) := do
  let (name, afterName) := splitName places
  if startsWith afterName '!' then
    let (written, after) := splitTag false afterName.tail
    if written.isEmpty then
      none
    else
      return (.tag ("!" ++ String.ofList name ++ "!") (← tagText? written), after)
  else
    let (written, after) := splitTag false afterName
    let suffix ← tagText? (name ++ written)
    return (if suffix.isEmpty then .tag "" "!" else .tag "!" suffix, after)

/-- The tag at the start of some places, from those behind its first mark. -/
def tag? (inBrackets : Bool) (places : List Place) : Option (Token × List Place) := do
  let (token, after) ← if startsWith places '<' then verbatimTag? places.tail else shortTag? places
  if endsWord after || (inBrackets && startsWith after ',') then return (token, after) else none

/-- The name of an anchor, from the places behind its mark. -/
def anchorName? (places : List Place) : Option (String × List Place) :=
  let (name, after) := splitName places
  if !name.isEmpty &&
      (endsWord after || ['?', ':', ',', ']', '}', '%', '@', '\x60'].any (startsWith after)) then
    some (String.ofList name, after)
  else
    none

end Dataflow.Text.Yaml
