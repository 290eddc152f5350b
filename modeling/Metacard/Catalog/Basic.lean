import Metacard.Schema.Attribute
import Metacard.Search.Request
/-!
# Catalogs

What can be asked of a catalog, whatever it is reached by: its queries and changes, and the metadata
that schemas are made of. A call takes the state of the catalog to an outcome and the state after
it; a call that fails may leave another state too.

This is the contract of `CatalogBackend` and `MetadataSource`, with the `MetacardUpdate` and the
`SourceInfo` that they pass.
-/

set_option autoImplicit false

namespace Metacard

abbrev Call (σ α : Type) := σ → Except Failure α × σ

/-- A new value of an attribute, as the list of its values. -/
structure AttributeUpdate where
  property : String
  values : List Json
  deriving DecidableEq, Repr

structure MetacardUpdate where
  ids : List String
  attributes : List AttributeUpdate
  deriving DecidableEq, Repr

/-- A source that the catalog asks, with whatever else is reported about it. -/
structure SourceInfo where
  id : String
  /-- The source is the catalog itself. -/
  isLocal : Bool
  details : Table Json
  deriving DecidableEq

/-- The operations of a catalog. Query responses, create requests and create replies are JSON values
that belong to the catalog. -/
structure Backend (σ : Type) where
  query : Request → Call σ Json
  create : Json → Call σ Json
  update : List MetacardUpdate → Call σ Unit
  delete : List String → Call σ Unit
  sourceIds : Call σ (List String)
  sourceInfo : List String → Call σ (List SourceInfo)

structure MetadataSource (σ : Type) where
  attributeGroups : Call σ AttributeGroups
  /-- The enumerations for all groups. -/
  enumerationConfig : Call σ Enumerations
  groupEnumerations : String → Call σ Enumerations
  localCatalogId : Call σ String

namespace AttributeUpdate

def fields : Fields AttributeUpdate :=
  AttributeUpdate.mk <$> .required "attribute" Decode.text <*>
    .required "values" (Decode.list Decode.json)

def decode : Decoder AttributeUpdate :=
  fields.decode "AttributeUpdate" .direct

def toJson (update : AttributeUpdate) : Json :=
  .object [("attribute", .text update.property), ("values", .array update.values)]

/-- The value that a list of values stands for: its only element, or else the list. -/
def value (update : AttributeUpdate) : Json :=
  match update.values with
  | [single] => single
  | values => .array values

/-- The change to a value; a list is taken as the list of values. -/
def ofValue (property : String) : Json → AttributeUpdate
  | .array items => ⟨property, items⟩
  | value => ⟨property, [value]⟩

end AttributeUpdate

namespace MetacardUpdate

def fields : Fields MetacardUpdate :=
  MetacardUpdate.mk <$> .required "ids" (Decode.list Decode.text) <*>
    .required "attributes" (Decode.list AttributeUpdate.decode)

def decode : Decoder MetacardUpdate :=
  fields.decode "MetacardUpdate" .direct

def toJson (update : MetacardUpdate) : Json :=
  .object [("attributes", .array (update.attributes.map AttributeUpdate.toJson)),
    ("ids", .array (update.ids.map .text))]

end MetacardUpdate

namespace SourceInfo

def fields : Fields (String × Bool) :=
  Prod.mk <$> .required "id" Decode.text <*> .defaulted "local" Decode.boolean false

/-- Reads a source; every further member is a detail. -/
def decode : Decoder SourceInfo
  | .object members => do
      let (id, isLocal) ← fields.ofObject members
      let others := members.filter fun entry => entry.1 ≠ "id" ∧ entry.1 ≠ "local"
      .ok ⟨id, isLocal, .ofList others⟩
  | found => .error (.wrongType found "struct SourceInfo")

/-- A detail goes before a member of its name. -/
def toJson (source : SourceInfo) : Json :=
  .record ([("id", .text source.id), ("local", .boolean source.isLocal)] ++ source.details.entries)

end SourceInfo

end Metacard
