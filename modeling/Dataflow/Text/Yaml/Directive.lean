import Dataflow.Text.Yaml.Tag

namespace Dataflow.Text.Yaml

/-!
# YAML directives

Lines before a document that start with a percent sign: the version of the format, and what the handles
of tags stand for.
-/

/-- A part of a version, with at most nine digits. -/
def versionPart? (places : List Place) : Option (Nat × List Place) :=
  let isPart (place : Place) : Bool := place.character.isDigit
  let digits := characters (places.takeWhile isPart)
  if 9 < digits.length then
    none
  else
    (digits? 10 digits).map fun number => (number, places.dropWhile isPart)

/-- The version of the format. -/
def version? (places : List Place) : Option (Token × List Place) := do
  let (major, afterMajor) ← versionPart? places
  if startsWith afterMajor '.' then
    let (minor, after) ← versionPart? afterMajor.tail
    return (.version major minor, after)
  else
    none

/-- A handle of tags and what it stands for. -/
def handle? (places : List Place) : Option (Token × List Place) := do
  if !startsWith places '!' then
    none
  else
    let (name, afterName) := splitName places.tail
    let isClosed := startsWith afterName '!'
    let afterHandle := if isClosed then afterName.tail else afterName
    let handle := "!" ++ String.ofList name ++ (if isClosed then "!" else "")
    let (written, after) := splitTag true (afterHandle.dropWhile Place.isBlank)
    if (!isClosed && !name.isEmpty) || !(afterHandle.head?.any Place.isBlank) || written.isEmpty ||
        !endsWord after then
      none
    else
      return (.handle handle (← tagText? written), after)

/-- The directive on the current line, from the places behind its percent sign. -/
def directive? (places : List Place) : Option (Token × List Place) := do
  let (name, afterName) := splitName places
  let content := afterName.dropWhile Place.isBlank
  let (token, after) ←
    if !endsWord afterName then
      none
    else if name == "YAML".toList then
      version? content
    else if name == "TAG".toList then
      handle? content
    else
      none
  return (token, ← nextLine? after)

end Dataflow.Text.Yaml
