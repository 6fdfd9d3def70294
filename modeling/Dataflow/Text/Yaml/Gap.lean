import Dataflow.Text.Yaml.Place

namespace Dataflow.Text.Yaml

/-!
# YAML gaps

What the places between two words of a scalar stand for.  Blanks stand for themselves; where a line
ends, the blanks around its end do not count.
-/

/-- The ends of lines among some places. -/
def lineEnds (gap : List Place) : List Char := characters (gap.filter Place.isBreak)

/-- What ends of lines stand for: one for a blank, and further ones for themselves. -/
def fold : List Char → List Char
  | ['\n'] => [' ']
  | '\n' :: further => further
  | separators => separators

/-- What a gap between two words stands for. -/
def joint (gap : List Place) : List Char :=
  if gap.any Place.isBreak then fold (lineEnds gap) else characters gap

end Dataflow.Text.Yaml
