import Metacard.Json.Basic
/-!
# JSON texts taken apart

A document is a JSON text before any value is made of it. The members of an object stand in the
order in which they were written, several of them perhaps under one key. A number that is no double
and a text with half of a surrogate pair have their places as well, but nothing can be made of
them.
-/

set_option autoImplicit false

namespace Metacard

inductive Document where
  | null
  | boolean (value : Bool)
  | number (value : Option Number)
  | text (value : Option String)
  | array (items : List Document)
  | object (members : List (Option String × Document))
  deriving Inhabited

namespace Document

mutual

def ofJson : Json → Document
  | .null => .null
  | .boolean value => .boolean value
  | .number value => .number (some value)
  | .text value => .text (some value)
  | .array items => .array (ofItems items)
  | .object members => .object (ofMembers members)

def ofItems : List Json → List Document
  | [] => []
  | item :: rest => ofJson item :: ofItems rest

def ofMembers : List (String × Json) → List (Option String × Document)
  | [] => []
  | (key, value) :: rest => (some key, ofJson value) :: ofMembers rest

end

mutual

/-- The value of a document with no more than so many arrays and objects inside each other, if
everything in it has a value. Of several members of an object under one key the last one stays. -/
def json? : Nat → Document → Option Json
  | _, .null => some .null
  | _, .boolean value => some (.boolean value)
  | _, .number value => value.map .number
  | _, .text value => value.map .text
  | 0, .array _ | 0, .object _ => none
  | depth + 1, .array items => (jsonItems? depth items).map .array
  | depth + 1, .object members => (jsonMembers? depth members).map .record

def jsonItems? : Nat → List Document → Option (List Json)
  | _, [] => some []
  | depth, item :: rest => do
      let first ← json? depth item
      let others ← jsonItems? depth rest
      some (first :: others)

def jsonMembers? : Nat → List (Option String × Document) → Option (List (String × Json))
  | _, [] => some []
  | depth, (key, value) :: rest => do
      let key ← key
      let first ← json? depth value
      let others ← jsonMembers? depth rest
      some ((key, first) :: others)

end

end Document

end Metacard
