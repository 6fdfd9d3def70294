import Dataflow.Text.Digits
import Dataflow.Text.Yaml.Gap

namespace Dataflow.Text.Yaml

/-!
# YAML block scalars

Scalars that are written in indented lines below a header, which says how their lines are joined, what
becomes of the ends of lines behind the last one, and possibly how far the lines are indented.
-/

/-- What becomes of the ends of lines behind the text. -/
inductive Chomping where
  /-- None is kept. -/
  | strip
  /-- That of the last line with text is kept. -/
  | clip
  | keep
  deriving Repr, DecidableEq

/-- The chomping at the start of some places, if there is one. -/
def splitChomping (places : List Place) : Chomping × List Place :=
  if startsWith places '+' then
    (.keep, places.tail)
  else if startsWith places '-' then
    (.strip, places.tail)
  else
    (.clip, places)

/-- The indentation at the start of some places, if there is one; it is not zero. -/
def splitIndentation? (places : List Place) : Option (Option Nat × List Place) :=
  match places.head?.bind fun place => digit? 10 place.character with
  | none => some (none, places)
  | some 0 => none
  | some digit => some (some digit, places.tail)

/--
The least indentation that leading lines show, which are empty or not indented further than the first
line with text.  A tab there is refused.
-/
def shownIndentation? (least : Nat) (places : List Place) : Option Nat :=
  let isLeading (place : Place) : Bool := place.character == ' ' || place.isBreak
  let leading := places.takeWhile isLeading
  if startsWith (places.dropWhile isLeading) '\t' then
    none
  else
    let columns := (leading.filter Place.isBlank).map fun place => place.column + 1
    some (columns.foldl max least)

/-- The lines of a block scalar that have been read. -/
structure BlockLines where
  /-- The characters so far, the last one first. -/
  reversed : List Char := []
  /-- The end of the last line with text. -/
  ending : List Char := []
  /-- The ends of the empty lines behind it. -/
  further : List Char := []
  /-- Whether the last line with text starts with a blank. -/
  startsBlank : Bool := false
  /-- Whether that line has not ended yet. -/
  inLine : Bool := false

namespace BlockLines

/-- What stands between the last line and a next one; lines that start with a blank are not folded. -/
def joint (lines : BlockLines) (isFolded : Bool) (nextStartsBlank : Bool) : List Char :=
  let ends := lines.ending ++ lines.further
  if isFolded && !lines.ending.isEmpty && !lines.startsBlank && !nextStartsBlank then
    fold ends
  else
    ends

/-- The lines with the first place of a next line. -/
def startLine (lines : BlockLines) (isFolded : Bool) (place : Place) : BlockLines where
  reversed := place.character :: ((lines.joint isFolded place.isBlank).reverse ++ lines.reversed)
  startsBlank := place.isBlank
  inLine := true

/-- The text of the lines. -/
def text (lines : BlockLines) (chomping : Chomping) : String :=
  let ends :=
    match chomping with
    | .strip => []
    | .clip => lines.ending
    | .keep => lines.ending ++ lines.further
  String.ofList (lines.reversed.reverse ++ ends)

end BlockLines

/-- The lines of a block scalar whose indentation is known, and the places behind it. -/
def blockLines? (isFolded : Bool) (indentation : Nat) (lines : BlockLines) :
    List Place → Option (BlockLines × List Place)
  | [] => some (lines, [])
  | place :: rest =>
      if lines.inLine then
        if place.isBreak then
          blockLines? isFolded indentation
            { lines with ending := [place.character], inLine := false } rest
        else
          blockLines? isFolded indentation
            { lines with reversed := place.character :: lines.reversed } rest
      else if place.isBreak then
        blockLines? isFolded indentation
          { lines with further := lines.further ++ [place.character] } rest
      else if indentation ≤ place.column then
        blockLines? isFolded indentation (lines.startLine isFolded place) rest
      else if place.character == ' ' then
        blockLines? isFolded indentation lines rest
      else if place.character == '\t' then
        none
      else
        some (lines, place :: rest)

/--
The text of a block scalar from the places behind its first character, and the places behind it.  A
written indentation counts from the one around the scalar; without one, the scalar is indented further.
-/
def block? (isFolded : Bool) (around : Nat) (places : List Place) :
    Option (String × List Place) := do
  let (before, afterChomping) := splitChomping places
  let (indentation, afterIndentation) ← splitIndentation? afterChomping
  let (chomping, afterHeader) :=
    if before == .clip then splitChomping afterIndentation else (before, afterIndentation)
  let body ← nextLine? afterHeader
  let indentation ←
    match indentation with
    | some further => some (around + further)
    | none => shownIndentation? (around + 1) body
  let (lines, rest) ← blockLines? isFolded indentation {} body
  return (lines.text chomping, rest)

end Dataflow.Text.Yaml
