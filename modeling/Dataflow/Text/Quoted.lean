import Dataflow.Text.Character.Combining
import Dataflow.Text.Character.Printable
import Dataflow.Text.Digits

namespace Dataflow.Text

/-!
# Quoted text

Text between double quotes, in which quotes and backslashes are escaped, and so are all characters that
would not be seen: those that are not printable and those that combine with the one before them.
-/

/-- Whether a character is seen as itself wherever it stands. -/
def isVisible (character : Char) : Bool := isPrintable character && !isCombining character

/-- A character inside quotes. -/
def quotedChar (character : Char) : String :=
  match character with
  | '"' => "\\\""
  | '\\' => "\\\\"
  | '\n' => "\\n"
  | '\t' => "\\t"
  | '\r' => "\\r"
  | '\x00' => "\\0"
  | other =>
      if isVisible other then
        other.toString
      else
        "\\u\x7b" ++ hexadecimal other.toNat ++ "\x7d"

/-- A text in quotes. -/
def quoted (text : String) : String :=
  "\"" ++ String.join (text.toList.map quotedChar) ++ "\""

end Dataflow.Text
