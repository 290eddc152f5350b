import Metacard.Filter.Tree
/-!
# Reading typed data from JSON values

A decoder gives a value or the first fault. The members of a record are visited in the order of the
object, which is that of their keys; members that the record does not have are passed over, and
members that are missing are reported after the visit, in the order of the record. A record may also
be written as the array of its members.
-/

set_option autoImplicit false

namespace Metacard

inductive DataFault where
  | missing (member : String)
  | wrongType (found : Json) (wanted : String)
  | outOfRange (found : Int) (wanted : String)
  | variantUnknown (found : String) (known : List String)
  | notASingleMember
  | tooShort (length : Nat) (record : String) (size : Nat)
  | tooLong (length : Nat)
  | tooLongBuffered (length size : Nat)
  | filter (fault : FilterFault)
  deriving DecidableEq

def Json.describe : Json → String
  | .null => "null"
  | .boolean value => "boolean `" ++ (if value then "true" else "false") ++ "`"
  | .number (.integer value) => "integer `" ++ toString value ++ "`"
  | .number (.double value) => "floating point `" ++ value.render ++ "`"
  | .text value => "string " ++ Text.quoted value
  | .array _ => "sequence"
  | .object _ => "map"

namespace DataFault

def listed (names : List String) : String :=
  String.intercalate ", " (names.map fun name => "`" ++ name ++ "`")

def message : DataFault → String
  | .missing member => "missing field `" ++ member ++ "`"
  | .wrongType found wanted => "invalid type: " ++ found.describe ++ ", expected " ++ wanted
  | .outOfRange found wanted =>
      "invalid value: " ++ (Json.number (.integer found)).describe ++ ", expected " ++ wanted
  | .variantUnknown found known =>
      "unknown variant `" ++ found ++ "`, expected one of " ++ listed known
  | .notASingleMember => "invalid value: map, expected map with a single key"
  | .tooShort length record size =>
      "invalid length " ++ toString length ++ ", expected struct " ++ record ++ " with " ++
        toString size ++ (if size = 1 then " element" else " elements")
  | .tooLong length =>
      "invalid length " ++ toString length ++ ", expected fewer elements in array"
  | .tooLongBuffered length size =>
      "invalid length " ++ toString length ++ ", expected " ++ toString size ++
        (if size = 1 then " element" else " elements") ++ " in sequence"
  | .filter fault => "Invalid predicate: " ++ fault.message

end DataFault

abbrev Decoder (α : Type) := Json → Except DataFault α

/-- Whether a value is read directly or from the members that an enclosing record set aside. In the
second case an array that is too long is reported by what was wanted, and an empty object may stand
for nothing. -/
inductive Reading where
  | direct
  | buffered
  deriving DecidableEq, Repr

namespace Decode

def json : Decoder Json := .ok

def text : Decoder String
  | .text value => .ok value
  | found => .error (.wrongType found "a string")

def boolean : Decoder Bool
  | .boolean value => .ok value
  | found => .error (.wrongType found "a boolean")

def natural : Decoder Nat
  | .number (.integer value) =>
      if value < 0 then .error (.outOfRange value "u64") else .ok value.toNat
  | found => .error (.wrongType found "u64")

def integer : Decoder Int
  | .number (.integer value) =>
      if -0x8000000000000000 ≤ value ∧ value < 0x8000000000000000 then .ok value
      else .error (.outOfRange value "i64")
  | found => .error (.wrongType found "i64")

def nullable {α : Type} (decoder : Decoder α) : Decoder (Option α)
  | .null => .ok none
  | found => (decoder found).map some

def items {α : Type} (decoder : Decoder α) : List Json → Except DataFault (List α)
  | [] => .ok []
  | item :: rest => do
      let first ← decoder item
      let others ← items decoder rest
      .ok (first :: others)

def list {α : Type} (decoder : Decoder α) : Decoder (List α)
  | .array found => items decoder found
  | found => .error (.wrongType found "a sequence")

def entries {α : Type} (decoder : Decoder α) :
    List (String × Json) → Except DataFault (List (String × α))
  | [] => .ok []
  | (key, value) :: rest => do
      let first ← decoder value
      let others ← entries decoder rest
      .ok ((key, first) :: others)

def table {α : Type} (decoder : Decoder α) : Decoder (Table α)
  | .object members => (entries decoder members).map .ofList
  | found => .error (.wrongType found "a map")

def bag : Decoder (Table Json)
  | .object members => .ok (.ofList members)
  | found => .error (.wrongType found "a map")

/-- One of some named values: the name, or an object with the name as its only key. -/
def variant {α : Type} (reading : Reading) (known : List (String × α)) : Decoder α
  | .text name => find name
  | .object [(name, payload)] => do
      let value ← find name
      match payload, reading with
      | .null, _ => .ok value
      | .object [], .buffered => .ok value
      | payload, _ => .error (.wrongType payload "unit")
  | .object _ => .error .notASingleMember
  | found => .error (.wrongType found "string or map")
where
  find (name : String) : Except DataFault α :=
    match known.lookup name with
    | some value => .ok value
    | none => .error (.variantUnknown name (known.map Prod.fst))

def filter : Decoder Filter := fun found =>
  (Filter.ofJson found).mapError .filter

end Decode

/-- The members of a record: their names, how each is checked by its key, how the record is made
from the members of an object, and how it is made from the items of an array. -/
structure Fields (α : Type) where
  names : List String
  check : String → Json → Except DataFault Unit
  ofMembers : List (String × Json) → Except DataFault α
  /-- Takes items from the front; the first argument is the fault of a missing item by its place,
  the second the place of the first item. -/
  ofItems : (Nat → DataFault) → Nat → List Json → Except DataFault (α × List Json)

namespace Fields

variable {α β : Type}

def size (fields : Fields α) : Nat :=
  fields.names.length

/-- A member that is read by `decoder` if it is there. `ifMissing` is its value if an object lacks
it, `ifEnded` its value if an array ends before it; without such a value it has to be there. -/
def member (name : String) (decoder : Decoder α) (ifMissing ifEnded : Option α) : Fields α where
  names := [name]
  check key value := if key = name then (decoder value).map fun _ => () else .ok ()
  ofMembers members :=
    match members.lookup name, ifMissing with
    | some value, _ => decoder value
    | none, some value => .ok value
    | none, none => .error (.missing name)
  ofItems short place
    | item :: rest => (decoder item).map fun value => (value, rest)
    | [] =>
        match ifEnded with
        | some value => .ok (value, [])
        | none => .error (short place)

def required (name : String) (decoder : Decoder α) : Fields α :=
  member name decoder none none

/-- A member that may be null or missing; in an array it has to be there. -/
def optional (name : String) (decoder : Decoder α) : Fields (Option α) :=
  member name (Decode.nullable decoder) (some none) none

/-- A member with a value for its absence. -/
def defaulted (name : String) (decoder : Decoder α) (value : α) : Fields α :=
  member name decoder (some value) (some value)

/-- A member that may be null or missing, in an array too. -/
def optionalDefaulted (name : String) (decoder : Decoder α) : Fields (Option α) :=
  defaulted name (Decode.nullable decoder) none

def nothing (value : α) : Fields α where
  names := []
  check _ _ := .ok ()
  ofMembers _ := .ok value
  ofItems _ _ items := .ok (value, items)

def append (functions : Fields (α → β)) (arguments : Fields α) : Fields β where
  names := functions.names ++ arguments.names
  check key value := do
    functions.check key value
    arguments.check key value
  ofMembers members := do
    let function ← functions.ofMembers members
    let argument ← arguments.ofMembers members
    .ok (function argument)
  ofItems short place items := do
    let (function, rest) ← functions.ofItems short place items
    let (argument, rest) ← arguments.ofItems short (place + functions.size) rest
    .ok (function argument, rest)

instance : Applicative Fields where
  pure := nothing
  seq functions arguments := append functions (arguments ())

def checkAll (fields : Fields α) : List (String × Json) → Except DataFault Unit
  | [] => .ok ()
  | (key, value) :: rest => do
      fields.check key value
      fields.checkAll rest

def ofObject (fields : Fields α) (members : List (String × Json)) : Except DataFault α := do
  fields.checkAll members
  fields.ofMembers members

def ofArray (fields : Fields α) (reading : Reading) (record : String) (items : List Json) :
    Except DataFault α := do
  let (value, rest) ← fields.ofItems (fun place => .tooShort place record fields.size) 0 items
  if rest.isEmpty then .ok value
  else
    match reading with
    | .direct => .error (.tooLong items.length)
    | .buffered => .error (.tooLongBuffered items.length fields.size)

def decode (fields : Fields α) (record : String) (reading : Reading) : Decoder α
  | .object members => fields.ofObject members
  | .array items => fields.ofArray reading record items
  | found => .error (.wrongType found ("struct " ++ record))

end Fields

end Metacard
