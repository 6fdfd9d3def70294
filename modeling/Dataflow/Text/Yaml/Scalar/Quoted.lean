import Dataflow.Text.Digits
import Dataflow.Text.Yaml.Gap

namespace Dataflow.Text.Yaml

/-!
# Quoted YAML scalars

Scalars between quotes.  Between single quotes only the quote itself is escaped, by writing it twice;
between double quotes a backslash starts an escape.
-/

/-- What an escape between double quotes stands for. -/
inductive Escape where
  | character (meant : Char)
  /-- The character whose number follows in so many hexadecimal digits. -/
  | number (digits : Nat)

/-- The escape that a character behind a backslash starts. -/
def escape? (character : Char) : Option Escape :=
  match character with
  | '0' => some (.character '\x00')
  | 'a' => some (.character '\x07')
  | 'b' => some (.character '\x08')
  | 't' => some (.character '\t')
  | '\t' => some (.character '\t')
  | 'n' => some (.character '\n')
  | 'v' => some (.character '\x0b')
  | 'f' => some (.character '\x0c')
  | 'r' => some (.character '\r')
  | 'e' => some (.character '\x1b')
  | ' ' => some (.character ' ')
  | '"' => some (.character '"')
  | '/' => some (.character '/')
  | '\\' => some (.character '\\')
  | 'N' => some (.character '\u0085')
  | '_' => some (.character '\u00a0')
  | 'L' => some (.character '\u2028')
  | 'P' => some (.character '\u2029')
  | 'x' => some (.number 2)
  | 'u' => some (.number 4)
  | 'U' => some (.number 8)
  | _ => none

/-- The character that has a number. -/
def character? (number : Nat) : Option Char :=
  if number.isValidChar then some (Char.ofNat number) else none

/-- How a quoted scalar goes on. -/
inductive Quoting where
  | text
  /-- Behind a backslash, or behind the first of two single quotes. -/
  | escape
  /-- With digits of the number of a character, some of which have been read. -/
  | digits (missing number : Nat)

/--
The text up to the closing quote and the places behind it, of which the characters before a gap have
been read, the last one first.  A joined gap starts with an escaped end of a line, for which nothing
stands.
-/
def quotedFrom?
    (quote : Char)
    (quoting : Quoting)
    (isJoined : Bool)
    (reversed : List Char)
    (gap : List Place) :
    List Place → Option (String × List Place)
  | [] => none
  | place :: rest =>
      match quoting with
      | .digits missing number => do
          let next := number * 16 + (← digit? 16 place.character)
          if missing ≤ 1 then
            quotedFrom? quote .text false ((← character? next) :: reversed) [] rest
          else
            quotedFrom? quote (.digits (missing - 1) next) false reversed [] rest
      | .escape =>
          if quote == '\x27' then
            quotedFrom? quote .text false (quote :: reversed) [] rest
          else if place.isBreak then
            quotedFrom? quote .text true reversed [] rest
          else
            match escape? place.character with
            | some (.character meant) => quotedFrom? quote .text false (meant :: reversed) [] rest
            | some (.number digits) => quotedFrom? quote (.digits digits 0) false reversed [] rest
            | none => none
      | .text =>
          if place.isSpace then
            quotedFrom? quote .text isJoined reversed (gap ++ [place]) rest
          else if (documentMark? (place :: rest)).isSome then
            none
          else
            let written := (if isJoined then lineEnds gap else joint gap).reverse ++ reversed
            if place.character == quote then
              if quote == '\x27' && startsWith rest quote then
                quotedFrom? quote .escape false written [] rest
              else
                some (String.ofList written.reverse, rest)
            else if quote == '"' && place.character == '\\' then
              quotedFrom? quote .escape false written [] rest
            else
              quotedFrom? quote .text false (place.character :: written) [] rest

/-- The text between the quotes behind the opening one, and the places behind the closing one. -/
def quoted? (quote : Char) (places : List Place) : Option (String × List Place) :=
  quotedFrom? quote .text false [] [] places

end Dataflow.Text.Yaml
