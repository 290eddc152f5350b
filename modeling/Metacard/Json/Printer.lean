import Metacard.Json.Basic
import Metacard.Number.Notation
import Metacard.Text.Quoted
/-!
# JSON text

Compact text without white space. In texts only quotes, backslashes and controls are escaped.
-/

set_option autoImplicit false

namespace Metacard

def Number.render : Number → String
  | .integer value => toString value
  | .double value => value.render

namespace Json

def escapedChar (c : Char) : String :=
  if c = '"' then "\\\""
  else if c = '\\' then "\\\\"
  else if c = '\x08' then "\\b"
  else if c = '\x0c' then "\\f"
  else if c = '\n' then "\\n"
  else if c = '\r' then "\\r"
  else if c = '\t' then "\\t"
  else if c.toNat < 16 then "\\u000" ++ Text.hex c.toNat
  else if c.toNat < 32 then "\\u00" ++ Text.hex c.toNat
  else c.toString

def renderText (text : String) : String :=
  "\"" ++ String.join (text.toList.map escapedChar) ++ "\""

mutual

def render : Json → String
  | .null => "null"
  | .boolean value => if value then "true" else "false"
  | .number value => value.render
  | .text value => renderText value
  | .array items => "[" ++ renderItems items ++ "]"
  | .object members => "\x7b" ++ renderMembers members ++ "\x7d"

def renderItems : List Json → String
  | [] => ""
  | [item] => item.render
  | item :: rest => item.render ++ "," ++ renderItems rest

def renderMembers : List (String × Json) → String
  | [] => ""
  | [(key, value)] => renderText key ++ ":" ++ value.render
  | (key, value) :: rest => renderText key ++ ":" ++ value.render ++ "," ++ renderMembers rest

end

end Json

end Metacard
