import Metacard.Filter.Fault
/-!
# The JSON form of filters

    {"type": "=", "property": "id", "value": "abc-123"}
    {"type": "AND", "filters": [...]}
    {"type": "NOT", "filter": {...}}

Reading takes the tags of words in any case and `!=` for `<>`, and passes over unknown members.
Writing gives the one form with the tags in capitals.

This is the conversion of `PredicateNode` from and to JSON values.
-/

set_option autoImplicit false

namespace Metacard

namespace Operand

mutual

def ofJson : Json → Except FilterFault Operand
  | .text value => .ok (.text value)
  | .number value => .ok (.number value)
  | .boolean value => .ok (.boolean value)
  | .array items => (ofItems items).map .list
  | .null => .error (.operandUnsupported .null)
  | .object members => .error (.operandUnsupported (.object members))

def ofItems : List Json → Except FilterFault (List Operand)
  | [] => .ok []
  | item :: rest => do
      let element ← ofJson item
      let elements ← ofItems rest
      .ok (element :: elements)

end

mutual

def toJson : Operand → Json
  | .text value => .text value
  | .number value => .number value
  | .boolean value => .boolean value
  | .list elements => .array (toItems elements)

def toItems : List Operand → List Json
  | [] => []
  | element :: rest => toJson element :: toItems rest

end

end Operand

namespace Comparison

def ofMembers (tag : String) (members : List (String × Json)) :
    Except FilterFault Comparison :=
  match Operator.ofTag? tag with
  | none => .error (.tagUnknown tag)
  | some operator =>
      match (members.lookup "property").bind Json.text? with
      | none => .error (.propertyMissing tag)
      | some property =>
          match members.lookup "value" with
          | none => .error (.operandMissing tag property)
          | some value => (Operand.ofJson value).map fun operand => ⟨operator, property, operand⟩

def toJson (leaf : Comparison) : Json :=
  .object [("property", .text leaf.property), ("type", .text leaf.operator.token),
    ("value", leaf.operand.toJson)]

end Comparison

namespace Filter

mutual

/-- Reads a filter. The tag decides which members are looked at, a connective being tried before
`NOT` and `NOT` before the operators. -/
def ofJson : Json → Except FilterFault Filter
  | .object members =>
      match (members.lookup "type").bind Json.text? with
      | none => .error .tagMissing
      | some tag =>
          match Connective.ofTag? tag with
          | some connective =>
              match membersOf? members with
              | none => .error (.membersMissing tag)
              | some result => result.map (.group connective)
          | none =>
              if Text.equalIgnoringCase tag "NOT" then
                match innerOf? members with
                | none => .error .innerMissing
                | some result => result.map .negation
              else (Comparison.ofMembers tag members).map .comparison
  | other => .error (.notAnObject other)

def membersOf? : List (String × Json) → Option (Except FilterFault (List Filter))
  | [] => none
  | (key, value) :: rest =>
      if key = "filters" then
        match value with
        | .array items => some (ofItems items)
        | _ => none
      else membersOf? rest

def innerOf? : List (String × Json) → Option (Except FilterFault Filter)
  | [] => none
  | (key, value) :: rest => if key = "filter" then some (ofJson value) else innerOf? rest

def ofItems : List Json → Except FilterFault (List Filter)
  | [] => .ok []
  | item :: rest => do
      let first ← ofJson item
      let others ← ofItems rest
      .ok (first :: others)

end

mutual

def toJson : Filter → Json
  | .comparison leaf => leaf.toJson
  | .group connective members =>
      .object [("filters", .array (toItems members)), ("type", .text connective.keyword)]
  | .negation inner => .object [("filter", toJson inner), ("type", .text "NOT")]

def toItems : List Filter → List Json
  | [] => []
  | member :: rest => toJson member :: toItems rest

end

end Filter

end Metacard
