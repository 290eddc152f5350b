import Metacard.Schema.FieldType
import Metacard.Schema.Names
/-!
# Schemas

A schema is built from reported attributes. Repeated reports of one id are merged, the later one
taking the place of the earlier; attributes with different ids must have different safe names. Each
side of the schema has one field for each attribute.

This is `SchemaDescriptor`, with the `ObjectShape` that `TypeProjector` gives each side.
-/

set_option autoImplicit false

namespace Metacard

structure Field where
  name : String
  rawId : String
  type : FieldType
  enumeration : List String
  deriving DecidableEq, Repr

structure Shape where
  side : Side
  fields : List Field
  deriving DecidableEq, Repr

/-- The attributes of a catalog with different safe names, and the way back from these. -/
structure Schema where
  attributes : List Attribute
  names : NameMap
  deriving DecidableEq

def Field.ofAttribute (side : Side) (attr : Attribute) : Field where
  name := safeName attr.id
  rawId := attr.id
  type := ⟨.ofPrimitive attr.type side, attr.multivalued⟩
  enumeration := attr.enumeration

namespace Field

def render (field : Field) : String :=
  field.name ++ ": " ++ field.type.render

def toJson (field : Field) : Json :=
  .object [("enumerated_values", .array (field.enumeration.map .text)),
    ("field_type", .object [("base", field.type.base.toJson), ("list", .boolean field.type.list)]),
    ("name", .text field.name), ("raw_id", .text field.rawId)]

end Field

namespace Shape

def name (shape : Shape) : String :=
  match shape.side with
  | .read => "MetacardAttributes"
  | .write => "MetacardAttributesInput"

def field? (shape : Shape) (name : String) : Option Field :=
  shape.fields.find? fun field => field.name = name

def toJson (shape : Shape) : Json :=
  .object [("fields", .array (shape.fields.map Field.toJson)),
    ("kind", .text (match shape.side with
      | .read => "Read"
      | .write => "Write")),
    ("name", .text shape.name)]

end Shape

/-- Puts an attribute in the place of the one with its id, or at the end. -/
def mergeAttribute (attr : Attribute) : List Attribute → List Attribute
  | [] => [attr]
  | existing :: rest =>
      if existing.id = attr.id then attr :: rest
      else existing :: mergeAttribute attr rest

theorem map_id_mergeAttribute (attr : Attribute) (attributes : List Attribute) :
    (mergeAttribute attr attributes).map Attribute.id =
      if attr.id ∈ attributes.map Attribute.id then attributes.map Attribute.id
      else attributes.map Attribute.id ++ [attr.id] := by
  induction attributes with
  | nil => simp [mergeAttribute]
  | cons existing rest ih =>
      by_cases same : existing.id = attr.id
      · simp [mergeAttribute, same]
      · have differs : attr.id ≠ existing.id := fun h => same h.symm
        simp only [mergeAttribute, if_neg same, List.map_cons, ih, List.mem_cons, differs,
          false_or]
        split <;> simp

theorem nodup_mergeAttribute (attr : Attribute) {attributes : List Attribute}
    (h : (attributes.map Attribute.id).Nodup) :
    ((mergeAttribute attr attributes).map Attribute.id).Nodup := by
  rw [map_id_mergeAttribute]
  by_cases present : attr.id ∈ attributes.map Attribute.id
  · rw [if_pos present]
    exact h
  · rw [if_neg present, List.nodup_append]
    refine ⟨h, by simp, fun id member other last => ?_⟩
    rw [List.mem_singleton] at last
    intro equal
    exact present (last ▸ equal ▸ member)

def mergeAttributes (attributes : List Attribute) : List Attribute :=
  attributes.foldl (fun merged attr => mergeAttribute attr merged) []

namespace Schema

def build (attributes : List Attribute) : Except Failure Schema := do
  let merged := mergeAttributes attributes
  let names ← NameMap.ofIds (merged.map Attribute.id)
  .ok ⟨merged, names⟩

def find? (schema : Schema) (rawId : String) : Option Attribute :=
  schema.attributes.find? fun attr => attr.id = rawId

def shape (schema : Schema) (side : Side) : Shape where
  side := side
  fields := schema.attributes.map (.ofAttribute side)

def builtin : Schema where
  attributes := Attribute.builtin
  names := ⟨.ofList (Attribute.builtin.map fun attr =>
    (safeName attr.id, attr.id))⟩

theorem build_builtin : build Attribute.builtin = .ok builtin := by
  rfl

end Schema

end Metacard
