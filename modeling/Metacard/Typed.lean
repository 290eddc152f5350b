import Metacard.Decode
import Metacard.Json.Parser
/-!
# Reading typed data from JSON texts

Typed data are read from a text member by member as the members stand there, and not from the value
of the text. So in an object that is read as a record no member of the record may stand twice, and
members that the record does not have are passed over even if they have no value.
-/

set_option autoImplicit false

namespace Metacard.Document

variable {α : Type}

def text? : Document → Option String
  | .text value => value
  | _ => none

def list? (read : Document → Option α) : Document → Option (List α)
  | .array items => items.mapM read
  | _ => none

def keyed? (read : Document → Option α) (member : Option String × Document) :
    Option (String × α) := do
  let key ← member.1
  let value ← read member.2
  some (key, value)

def table? (read : Document → Option α) : Document → Option (Table α)
  | .object members => (members.mapM (keyed? read)).map .ofList
  | _ => none

/-- The members of a record among those of an object. Every key has to be a text. -/
def ownMembers? (names : List String) (members : List (Option String × Document)) :
    Option (List (String × Json)) :=
  let own := members.filter fun member => member.1 ∈ names.map some
  if (∀ member ∈ members, member.1.isSome) ∧ (own.map Prod.fst).Nodup then
    jsonMembers? Json.greatestDepth own
  else none

def record? (fields : Fields α) (record : String) : Document → Option α
  | .object members => do
      let own ← ownMembers? fields.names members
      (fields.ofObject own).toOption
  | found => do
      let found ← found.json? Json.greatestDepth
      (fields.decode record .direct found).toOption

end Metacard.Document
