import Metacard.Failure
/-!
# Query settings

Paging, sorting, federation and faceting of a query. Their names on the wire are those of the
catalog's query request. An option that is not set, and an empty list, is left out on the wire.

This is `QuerySettings` with its `SortSpec`.
-/

set_option autoImplicit false

namespace Metacard

inductive SortDirection where
  | asc
  | ascending
  | desc
  | descending
  deriving DecidableEq, Repr

structure SortKey where
  property : String
  direction : SortDirection
  deriving DecidableEq, Repr

structure Settings where
  /-- The source to ask; all of them if it is not set. -/
  source : Option String
  federation : Option String
  phonetics : Option Bool
  spellcheck : Option Bool
  sorts : List SortKey
  /-- The size of a page; with 0 only the status and the facets are asked for. -/
  count : Option Int
  /-- The place of the first record; records are counted from 1. -/
  start : Option Int
  resultType : Option String
  /-- The attributes whose values are counted. -/
  facets : List String
  deriving DecidableEq, Repr

namespace SortDirection

def names : List (String × SortDirection) :=
  [("asc", .asc), ("ascending", .ascending), ("desc", .desc), ("descending", .descending)]

def name : SortDirection → String
  | .asc => "asc"
  | .ascending => "ascending"
  | .desc => "desc"
  | .descending => "descending"

def decode (reading : Reading) : Decoder SortDirection :=
  Decode.variant reading names

def toJson (direction : SortDirection) : Json :=
  .text direction.name

end SortDirection

namespace SortKey

def fields (reading : Reading) : Fields SortKey :=
  SortKey.mk <$> .required "attribute" Decode.text <*>
    .required "direction" (SortDirection.decode reading)

def decode (reading : Reading) : Decoder SortKey :=
  (fields reading).decode "SortSpec" reading

def toJson (key : SortKey) : Json :=
  .object [("attribute", .text key.property), ("direction", key.direction.toJson)]

end SortKey

namespace Settings

def unset : Settings where
  source := none
  federation := none
  phonetics := none
  spellcheck := none
  sorts := []
  count := none
  start := none
  resultType := none
  facets := []

instance : Inhabited Settings := ⟨unset⟩

def withSource (settings : Settings) (source : String) : Settings :=
  { settings with source := some source }

def withFederation (settings : Settings) (federation : String) : Settings :=
  { settings with federation := some federation }

def withCount (settings : Settings) (count : Int) : Settings :=
  { settings with count := some count }

def withStart (settings : Settings) (start : Int) : Settings :=
  { settings with start := some start }

def sortBy (settings : Settings) (property : String) (direction : SortDirection) : Settings :=
  { settings with sorts := settings.sorts ++ [⟨property, direction⟩] }

def withFacet (settings : Settings) (facet : String) : Settings :=
  { settings with facets := settings.facets ++ [facet] }

/-- The bounds of paging; the start is looked at first. -/
def validate (settings : Settings) : Except SettingsFault Unit :=
  match settings.start with
  | some start => if start < 1 then .error (.startBelowOne start) else validateCount
  | none => validateCount
where
  validateCount : Except SettingsFault Unit :=
    match settings.count with
    | some count => if count < 0 then .error (.countNegative count) else .ok ()
    | none => .ok ()

def isFacetOnly (settings : Settings) : Bool :=
  settings.count = some 0

def fields (reading : Reading) : Fields Settings :=
  Settings.mk <$> .optionalDefaulted "src" Decode.text <*>
    .optionalDefaulted "federation" Decode.text <*>
    .optionalDefaulted "phonetics" Decode.boolean <*>
    .optionalDefaulted "spellcheck" Decode.boolean <*>
    .defaulted "sorts" (Decode.list (SortKey.decode reading)) [] <*>
    .optionalDefaulted "count" Decode.integer <*>
    .optionalDefaulted "start" Decode.integer <*>
    .optionalDefaulted "type" Decode.text <*>
    .defaulted "facets" (Decode.list Decode.text) []

def decode : Decoder Settings :=
  (fields .direct).decode "QuerySettings" .direct

def members (settings : Settings) : List (String × Json) :=
  settings.source.toList.map (fun value => ("src", .text value)) ++
    settings.federation.toList.map (fun value => ("federation", .text value)) ++
    settings.phonetics.toList.map (fun value => ("phonetics", .boolean value)) ++
    settings.spellcheck.toList.map (fun value => ("spellcheck", .boolean value)) ++
    (if settings.sorts.isEmpty then [] else
      [("sorts", .array (settings.sorts.map SortKey.toJson))]) ++
    settings.count.toList.map (fun value => ("count", .number (.integer value))) ++
    settings.start.toList.map (fun value => ("start", .number (.integer value))) ++
    settings.resultType.toList.map (fun value => ("type", .text value)) ++
    (if settings.facets.isEmpty then [] else [("facets", .array (settings.facets.map .text))])

def toJson (settings : Settings) : Json :=
  .record settings.members

end Settings

end Metacard
