namespace Dataflow.Text.Yaml

/-!
# YAML places

The characters of a text with the places where they stand.  Nesting depends on columns, and a key has
to end on the line where it starts, within a number of bytes.
-/

/-- A character and where it stands. -/
structure Place where
  /-- The character; an end of a line is a line feed or one of the two separators of Unicode. -/
  character : Char
  /-- The number of bytes before it. -/
  offset : Nat
  line : Nat
  column : Nat
  deriving Repr, DecidableEq

namespace Place

/-- Whether a place is a blank on a line. -/
def isBlank (place : Place) : Bool := place.character == ' ' || place.character == '\t'

/-- Whether a place is the end of a line. -/
def isBreak (place : Place) : Bool := ['\n', '\u2028', '\u2029'].contains place.character

/-- Whether a place is between words. -/
def isSpace (place : Place) : Bool := place.isBlank || place.isBreak

end Place

/-- Whether a character may stand in a text: all but controls and a few that are no characters. -/
def isAllowed (character : Char) : Bool :=
  let code := character.toNat
  code == 0x9 || code == 0xa || code == 0xd || code == 0x85 ||
    (decide (0x20 ≤ code) && decide (code ≤ 0x7e)) ||
    (decide (0xa0 ≤ code) && decide (code ≤ 0xfffd)) ||
    decide (0x10000 ≤ code)

/-- The end of a line that a character is; those of one line only are line feeds. -/
def lineEnd? (character : Char) : Option Char :=
  if ['\n', '\r', '\u0085'].contains character then
    some '\n'
  else if character == '\u2028' || character == '\u2029' then
    some character
  else
    none

/-- The places of characters that start at an offset, a line and a column. -/
def placesFrom? (offset line column : Nat) : List Char → Option (List Place)
  | [] => some []
  | '\r' :: '\n' :: rest => do
      let places ← placesFrom? (offset + 2) (line + 1) 0 rest
      return { character := '\n', offset, line, column } :: places
  | character :: rest =>
      if isAllowed character then do
        let next := offset + character.utf8Size
        match lineEnd? character with
        | some ending => do
            let places ← placesFrom? next (line + 1) 0 rest
            return { character := ending, offset, line, column } :: places
        | none => do
            let places ← placesFrom? next line (column + 1) rest
            return { character, offset, line, column } :: places
      else
        none

/--
The places of a text.  A byte order mark in front does not belong to the text; a second one is no
character either but takes a place.
-/
def places? (text : String) : Option (List Place) :=
  match text.toList with
  | '\ufeff' :: '\ufeff' :: rest => placesFrom? '\ufeff'.utf8Size 0 1 rest
  | '\ufeff' :: rest => placesFrom? 0 0 0 rest
  | characters => placesFrom? 0 0 0 characters

/-- The characters of places. -/
def characters (places : List Place) : List Char := places.map Place.character

/-- Whether a word that stands before these places is at its end. -/
def endsWord : List Place → Bool
  | [] => true
  | place :: _ => place.isSpace

/-- Whether these places start with a character. -/
def startsWith (places : List Place) (character : Char) : Bool :=
  places.head?.any fun place => place.character == character

/-- The character of a mark of three dashes or dots that stands alone at the start of a line. -/
def documentMark? : List Place → Option Char
  | first :: second :: third :: rest =>
      if first.column == 0 && (first.character == '-' || first.character == '.') &&
          second.character == first.character && third.character == first.character &&
          endsWord rest then
        some first.character
      else
        none
  | _ => none

/-- The places of the next line, provided that only blanks and a comment are before it. -/
def nextLine? (places : List Place) : Option (List Place) :=
  let after := places.dropWhile Place.isBlank
  let ending := if startsWith after '#' then after.dropWhile fun place => !place.isBreak else after
  match ending with
  | [] => some []
  | place :: rest => if place.isBreak then some rest else none

/-- Whether a character may stand in the name of an anchor or of a directive. -/
def isNameCharacter (character : Char) : Bool :=
  character.isAlphanum || character == '_' || character == '-'

/-- The name that places start with, which may be empty, and the places behind it. -/
def splitName (places : List Place) : List Char × List Place :=
  let isName (place : Place) : Bool := isNameCharacter place.character
  (characters (places.takeWhile isName), places.dropWhile isName)

end Dataflow.Text.Yaml
