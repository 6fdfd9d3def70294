import Dataflow.Decimal.Format
import Dataflow.Text.Quoted

namespace Dataflow.Text

/-!
# Documents as JSON text

Structured documents and their JSON text with one value to a line, indented by two blanks for each level.
-/

/-- A structured document. -/
inductive Document where
  | null
  | natural (number : Nat)
  | double (number : Float)
  | text (value : String)
  | list (items : List Document)
  | record (fields : List (String × Document))

namespace Document

/-- A document for a value that may be missing. -/
def ofOption {Item : Type} (encode : Item → Document) : Option Item → Document
  | some item => encode item
  | none => .null

/-- A hexadecimal number of four digits. -/
def fourDigits (number : Nat) : String :=
  let digits := hexadecimal number
  Decimal.zeros (4 - digits.length) ++ digits

/-- A character inside a JSON string. -/
def escapedChar (character : Char) : String :=
  match character with
  | '"' => "\\\""
  | '\\' => "\\\\"
  | '\n' => "\\n"
  | '\t' => "\\t"
  | '\r' => "\\r"
  | '\x08' => "\\b"
  | '\x0c' => "\\f"
  | other => if other.toNat < 0x20 then "\\u" ++ fourDigits other.toNat else other.toString

/-- A JSON string. -/
def renderText (value : String) : String :=
  "\"" ++ String.join (value.toList.map escapedChar) ++ "\""

/-- A JSON number; JSON has none for infinities and undefined values. -/
def renderDouble (number : Float) : String :=
  if number.isFinite then Decimal.Format.document.render number else "null"

/-- Values on lines of their own, between brackets, with the closing one at the outer indentation. -/
def block (opening closing outer : String) (values : List String) : String :=
  if values.isEmpty then
    opening ++ closing
  else
    let inner := outer ++ "  "
    opening ++ "\n" ++ String.intercalate ",\n" (values.map (inner ++ ·)) ++ "\n" ++ outer ++ closing

mutual

/-- The text of a document whose lines after the first are indented. -/
def renderAt (outer : String) : Document → String
  | .null => "null"
  | .natural number => toString number
  | .double number => renderDouble number
  | .text value => renderText value
  | .list items => block "[" "]" outer (renderItems (outer ++ "  ") items)
  | .record fields => block "\x7b" "\x7d" outer (renderFields (outer ++ "  ") fields)

/-- The texts of list items. -/
def renderItems (outer : String) : List Document → List String
  | [] => []
  | item :: rest => item.renderAt outer :: renderItems outer rest

/-- The texts of record fields. -/
def renderFields (outer : String) : List (String × Document) → List String
  | [] => []
  | (name, value) :: rest =>
      (renderText name ++ ": " ++ value.renderAt outer) :: renderFields outer rest

end

/-- The text of a document. -/
def render (document : Document) : String := document.renderAt ""

end Document

end Dataflow.Text
