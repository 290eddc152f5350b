import Metacard.Typed
/-!
# Attributes

What the catalog reports about an attribute: its raw id, its primitive type, and how its values are
held. Attributes come in groups, one for each type of metacard, and the values allowed for some of
them come in enumerations.

This is `AttributeMetadata` with its `PrimitiveType`, and `builtin_attributes`.
-/

set_option autoImplicit false

namespace Metacard

/-- The primitive type of an attribute. A type without a name of its own here is kept as it is
written. -/
inductive PrimitiveType where
  | string
  | double
  | integer
  | long
  | boolean
  | binary
  | geometry
  | xml
  | date
  | json
  | other (raw : String)
  deriving DecidableEq, Repr

namespace PrimitiveType

def known : List (String × PrimitiveType) :=
  [("STRING", .string), ("DOUBLE", .double), ("INTEGER", .integer), ("LONG", .long),
    ("BOOLEAN", .boolean), ("BINARY", .binary), ("GEOMETRY", .geometry), ("XML", .xml),
    ("DATE", .date), ("JSON", .json)]

def ofRaw (raw : String) : PrimitiveType :=
  (known.lookup raw).getD (.other raw)

def raw : PrimitiveType → String
  | .string => "STRING"
  | .double => "DOUBLE"
  | .integer => "INTEGER"
  | .long => "LONG"
  | .boolean => "BOOLEAN"
  | .binary => "BINARY"
  | .geometry => "GEOMETRY"
  | .xml => "XML"
  | .date => "DATE"
  | .json => "JSON"
  | .other raw => raw

def decode : Decoder PrimitiveType := fun found =>
  (Decode.text found).map ofRaw

def toJson (type : PrimitiveType) : Json :=
  .text type.raw

end PrimitiveType

structure Attribute where
  id : String
  type : PrimitiveType
  multivalued : Bool
  injected : Bool
  enumeration : List String
  deriving DecidableEq, Repr

/-- Attributes by group and then by a key inside the group. -/
abbrev AttributeGroups := Table (Table Attribute)

/-- Allowed values by attribute id. -/
abbrev Enumerations := Table (List String)

namespace Attribute

def plain (id : String) (type : PrimitiveType) : Attribute where
  id := id
  type := type
  multivalued := false
  injected := false
  enumeration := []

def fields : Fields Attribute :=
  Attribute.mk <$> .required "id" Decode.text <*> .required "type" PrimitiveType.decode <*>
    .defaulted "multivalued" Decode.boolean false <*>
    .defaulted "isInjected" Decode.boolean false <*>
    .defaulted "enums" (Decode.list Decode.text) []

def decode : Decoder Attribute :=
  fields.decode "AttributeMetadata" .direct

def read? : Document → Option Attribute :=
  Document.record? fields "AttributeMetadata"

def toJson (attr : Attribute) : Json :=
  .object [("enums", .array (attr.enumeration.map .text)), ("id", .text attr.id),
    ("isInjected", .boolean attr.injected), ("multivalued", .boolean attr.multivalued),
    ("type", attr.type.toJson)]

/-- The attributes that every schema has ahead of the reported ones. -/
def builtin : List Attribute :=
  [plain "anyText" .string, plain "anyGeo" (.ofRaw "LOCATION"), plain "metacard-type" .string,
    plain "source-id" .string, plain "cached" .string,
    { plain "metacard-tags" .string with multivalued := true }]

end Attribute

def AttributeGroups.read? : Document → Option AttributeGroups :=
  Document.table? (Document.table? Attribute.read?)

def AttributeGroups.toJson (groups : AttributeGroups) : Json :=
  .ofTable (groups.map fun group => .ofTable (group.map Attribute.toJson))

def Enumerations.decode : Decoder Enumerations :=
  Decode.table (Decode.list Decode.text)

def Enumerations.read? : Document → Option Enumerations :=
  Document.table? (Document.list? Document.text?)

def Enumerations.toJson (enumerations : Enumerations) : Json :=
  .ofTable (enumerations.map fun values => .array (values.map .text))

end Metacard
