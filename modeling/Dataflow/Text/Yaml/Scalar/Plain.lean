import Dataflow.Text.Yaml.Gap

namespace Dataflow.Text.Yaml

/-!
# Plain YAML scalars

Scalars without quotes.  They end where something else begins and may go on over lines that are
indented.
-/

/-- A plain scalar at the start of some places. -/
structure PlainScalar where
  text : String
  /-- Whether the line has ended behind it. -/
  endsLine : Bool
  rest : List Place

/-- Characters with a meaning of their own between brackets. -/
def bracketIndicators : List Char := [',', '[', ']', '{', '}']

/-- Whether a plain scalar ends before a place although no blank is there. -/
def endsPlain (inBrackets : Bool) (place : Place) (rest : List Place) : Bool :=
  (place.character == ':' && endsWord rest) ||
    (inBrackets && bracketIndicators.contains place.character)

/-- Whether a place is a colon between brackets that belongs neither to a word nor to a key. -/
def isStrayColon (inBrackets : Bool) (place : Place) (rest : List Place) : Bool :=
  inBrackets && place.character == ':' &&
    rest.head?.any fun next => next.character == '?' || bracketIndicators.contains next.character

/-- Whether a plain scalar ends behind the gap before these places. -/
def endsBehindGap (inBrackets : Bool) (indentation : Nat) (place : Place) (rest : List Place) : Bool :=
  place.character == '#' || (!inBrackets && decide (place.column < indentation)) ||
    (documentMark? (place :: rest)).isSome

/-- The plain scalar of characters that have been read, the last one first, before a gap and the rest. -/
def PlainScalar.ended (reversed : List Char) (gap rest : List Place) : PlainScalar where
  text := String.ofList reversed.reverse
  endsLine := gap.any Place.isBreak
  rest := rest

/-- A plain scalar, of which the characters before a gap have been read, the last one first. -/
def plainFrom?
    (inBrackets : Bool)
    (indentation : Nat)
    (reversed : List Char)
    (gap : List Place) :
    List Place → Option PlainScalar
  | [] => some (.ended reversed gap [])
  | place :: rest =>
      if place.isSpace then
        if place.character == '\t' && gap.any Place.isBreak && decide (place.column < indentation) then
          none
        else
          plainFrom? inBrackets indentation reversed (gap ++ [place]) rest
      else if !gap.isEmpty && endsBehindGap inBrackets indentation place rest then
        some (.ended reversed gap (place :: rest))
      else if isStrayColon inBrackets place rest then
        none
      else if endsPlain inBrackets place rest then
        some (.ended reversed gap (place :: rest))
      else
        plainFrom? inBrackets indentation
          (place.character :: ((joint gap).reverse ++ reversed)) [] rest

/-- The plain scalar that some places start with; its further lines have a least indentation. -/
def plain? (inBrackets : Bool) (indentation : Nat) (places : List Place) : Option PlainScalar :=
  plainFrom? inBrackets indentation [] [] places

end Dataflow.Text.Yaml
