/-
**Strings in JSON.**

Between the quotes, a quote and a backslash stand behind a backslash, a line feed, a carriage
return and a tabulator have escapes of one letter, and the other control characters are written by
their number.

Main definitions: `Handover.Text.jsonString`.
-/

import Handover.Text.Hex

set_option autoImplicit false

namespace Handover.Text

/-- How a character stands in a string. -/
def jsonChar (c : Char) : String :=
  match c with
  | '"' => "\\\""
  | '\\' => "\\\\"
  | '\n' => "\\n"
  | '\r' => "\\r"
  | '\t' => "\\t"
  | _ => if c.toNat < 0x20 then "\\u" ++ hexPadded 4 c.toNat else c.toString

/-- A string with its quotes. -/
def jsonString (s : String) : String := "\"" ++ String.join (s.toList.map jsonChar) ++ "\""

end Handover.Text
