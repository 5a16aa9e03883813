import EventScript.Text.Hex
import EventScript.Text.Printable

/-!
# Quoted text

Names and characters appear in inspection texts and messages between quotes. A character that would
break the quotation, or that is not shown as itself, is written as an escape.
-/

namespace EventScript.Text

/-- One character inside the given kind of quotes. -/
def escape (quote c : Char) : String :=
  if c = '\x00' then "\\0"
  else if c = '\t' then "\\t"
  else if c = '\r' then "\\r"
  else if c = '\n' then "\\n"
  else if c = '\\' ∨ c = quote then String.ofList ['\\', c]
  else if isPrintable c then c.toString
  else "\\u\x7b" ++ hexDigits c.toNat ++ "\x7d"

/-- A text in double quotes. -/
def quoted (text : String) : String :=
  "\"" ++ String.join (text.toList.map (escape '"')) ++ "\""

/-- A character in single quotes. -/
def quotedChar (c : Char) : String := "'" ++ escape '\'' c ++ "'"

end EventScript.Text
