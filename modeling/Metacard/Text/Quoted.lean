import Metacard.Text.Hexadecimal
import Metacard.Text.Hidden
/-!
# Texts shown between double quotes

A message that names a text shows it between double quotes, in a form that can be told apart from
any other text: quotes, backslashes and line controls are escaped, and characters without a visible
form are shown by number.
-/

set_option autoImplicit false

namespace Metacard.Text

def quotedChar (c : Char) : String :=
  if c = '\x00' then "\\0"
  else if c = '\t' then "\\t"
  else if c = '\r' then "\\r"
  else if c = '\n' then "\\n"
  else if c = '\\' then "\\\\"
  else if c = '"' then "\\\""
  else if isHidden c then "\\u\x7b" ++ hex c.toNat ++ "\x7d"
  else c.toString

def quoted (text : String) : String :=
  "\"" ++ String.join (text.toList.map quotedChar) ++ "\""

end Metacard.Text
