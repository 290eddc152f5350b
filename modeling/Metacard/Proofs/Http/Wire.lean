import Metacard.Catalog.Basic
import Metacard.Proofs.Decode
/-!
# What is written on the wire is read back

Requests, updates, sources, attributes and enumerations come back from their JSON values as they
were. Numbers must be integers of 64 bits, a source must have no details with the names of its own
members, and a type must be one that is read off some text.
-/

set_option autoImplicit false

namespace Metacard

namespace Decode

variable {α : Type}

theorem list_map_self {decoder : Decoder α} {toJson : α → Json} {found : List α}
    (readBack : ∀ item ∈ found, decoder (toJson item) = .ok item) :
    list decoder (.array (found.map toJson)) = .ok found := by
  have read := list_map_of_mem readBack
  rwa [List.map_id'] at read

theorem boolean_boolean (value : Bool) : boolean (.boolean value) = .ok value :=
  rfl

theorem texts (values : List String) : list text (.array (values.map .text)) = .ok values :=
  list_map_self fun _ _ => rfl

theorem values (values : List Json) : list json (.array values) = .ok values := by
  have read := @list_map_self Json json id values fun _ _ => rfl
  rwa [List.map_id] at read

end Decode

def Fits64 (value : Int) : Prop :=
  -0x8000000000000000 ≤ value ∧ value < 0x8000000000000000

instance (value : Int) : Decidable (Fits64 value) :=
  inferInstanceAs (Decidable (_ ∧ _))

theorem Decode.integer_of_fits {value : Int} (fits : Fits64 value) :
    integer (.number (.integer value)) = .ok value :=
  if_pos fits

/-- The numbers that are set are integers of 64 bits. -/
structure Settings.Fits (settings : Settings) : Prop where
  count : ∀ count ∈ settings.count, Fits64 count
  start : ∀ start ∈ settings.start, Fits64 start

instance (settings : Settings) : Decidable settings.Fits :=
  decidable_of_iff ((∀ count ∈ settings.count, Fits64 count) ∧
    ∀ start ∈ settings.start, Fits64 start)
    ⟨fun fits => ⟨fits.1, fits.2⟩, fun fits => ⟨fits.1, fits.2⟩⟩

theorem SortDirection.decode_toJson (reading : Reading) (direction : SortDirection) :
    decode reading direction.toJson = .ok direction := by
  cases direction <;> rfl

theorem SortKey.decode_toJson (reading : Reading) (key : SortKey) :
    decode reading key.toJson = .ok key := by
  have ascending : Ascending [("attribute", Json.text key.property),
      ("direction", key.direction.toJson)] :=
    ascending_of_keys (by decide : ["attribute", "direction"].Pairwise (· < ·))
  have property : (Fields.required "attribute" Decode.text).Reads _ _ :=
    Fields.reads_required ascending rfl rfl
  have direction : (Fields.required "direction" (SortDirection.decode reading)).Reads _ _ :=
    Fields.reads_required ascending rfl (SortDirection.decode_toJson reading key.direction)
  exact Fields.decode_of_reads ((property.map _).seq direction) _ _

namespace Fields

variable {α : Type} {table : Table Json} {name : String} {decoder : Decoder α}
  {toJson : α → Json}

theorem reads_option {value : Option α} (found : table.find? name = value.map toJson)
    (notNull : ∀ item, toJson item ≠ .null)
    (readBack : ∀ item ∈ value, decoder (toJson item) = .ok item) :
    (optionalDefaulted name decoder).Reads table.entries value := by
  cases value with
  | none => exact reads_optionalDefaulted_missing found
  | some item =>
    exact reads_optionalDefaulted table.ascending found (notNull item) (readBack item rfl)

theorem reads_list {values : List α}
    (found : table.find? name =
      if values.isEmpty then none else some (.array (values.map toJson)))
    (readBack : ∀ item, decoder (toJson item) = .ok item) :
    (defaulted name (Decode.list decoder) []).Reads table.entries values := by
  cases values with
  | nil => exact reads_missing found _
  | cons item rest =>
    exact reads_defaulted table.ascending found (Decode.list_map_self fun item _ => readBack item) _

end Fields

def Json.setMembers (slots : List (String × Option Json)) : List (String × Json) :=
  slots.flatMap fun slot => slot.2.toList.map fun value => (slot.1, value)

theorem lookup_single {α : Type} (key name : String) (value : α) :
    [(name, value)].lookup key = if key = name then some value else none := by
  by_cases same : key = name
  · rw [same, List.lookup_cons_self, if_pos rfl]
  · rw [List.lookup_cons, beq_false_of_ne same, if_neg same, List.lookup_nil]

theorem Json.lookup_setMembers {slots : List (String × Option Json)}
    (distinct : (slots.map Prod.fst).Nodup) (key : String) :
    (setMembers slots).reverse.lookup key = (slots.lookup key).join := by
  induction slots with
  | nil => rfl
  | cons slot rest inductionHypothesis =>
    obtain ⟨name, value⟩ := slot
    obtain ⟨isNew, restDistinct⟩ := List.nodup_cons.1 distinct
    have first : ((value.toList.map fun item => (name, item)).reverse).lookup key =
        if key = name then value else none := by
      cases value with
      | none => simp
      | some item => exact lookup_single key name item
    rw [setMembers, List.flatMap_cons, List.reverse_append, List.lookup_append, ← setMembers,
      inductionHypothesis restDistinct, first, List.lookup_cons]
    by_cases same : key = name
    · subst same
      have absent : rest.lookup key = none := by
        apply List.lookup_eq_none_iff.2
        intro entry member
        have isEntry : entry.1 ∈ rest.map Prod.fst := List.mem_map_of_mem member
        exact bne_iff_ne.2 fun equal => isNew (equal ▸ isEntry)
      simp [absent]
    · simp [same, beq_false_of_ne same]

namespace Settings

def slots (settings : Settings) : List (String × Option Json) :=
  [("src", settings.source.map .text), ("federation", settings.federation.map .text),
    ("phonetics", settings.phonetics.map .boolean),
    ("spellcheck", settings.spellcheck.map .boolean),
    ("sorts", if settings.sorts.isEmpty then none
      else some (.array (settings.sorts.map SortKey.toJson))),
    ("count", settings.count.map fun value => .number (.integer value)),
    ("start", settings.start.map fun value => .number (.integer value)),
    ("type", settings.resultType.map .text),
    ("facets", if settings.facets.isEmpty then none
      else some (.array (settings.facets.map .text)))]

theorem members_eq (settings : Settings) : settings.members = Json.setMembers settings.slots := by
  have option : ∀ {α : Type} (name : String) (toJson : α → Json) (value : Option α),
      (value.map toJson).toList.map (fun item => (name, item)) =
        value.toList.map fun item => (name, toJson item) := by
    intro α name toJson value
    cases value <;> rfl
  have list : ∀ (name : String) (isEmpty : Bool) (items : Json),
      (if isEmpty then none else some items).toList.map (fun item => (name, item)) =
        if isEmpty then [] else [(name, items)] := by
    intro name isEmpty items
    cases isEmpty <;> rfl
  simp only [members, Json.setMembers, slots, List.flatMap_cons, List.flatMap_nil, option, list,
    List.append_nil, List.append_assoc]

theorem nodup_slots (settings : Settings) : (settings.slots.map Prod.fst).Nodup := by
  have names : settings.slots.map Prod.fst = ["src", "federation", "phonetics", "spellcheck",
    "sorts", "count", "start", "type", "facets"] := rfl
  rw [names]
  decide

/-- What is set stands under its name, and nothing under the name of a setting that is not. -/
def StandIn (settings : Settings) (table : Table Json) : Prop :=
  ∀ key, key ≠ "cql" → table.find? key = (settings.slots.lookup key).join

theorem StandIn.reads {settings : Settings} {table : Table Json} (stand : settings.StandIn table)
    (fits : settings.Fits) (reading : Reading) :
    (fields reading).Reads table.entries settings := by
  have isText (text : String) : Json.text text ≠ .null := nofun
  have isBoolean (value : Bool) : Json.boolean value ≠ .null := nofun
  have isNumber (value : Int) : Json.number (.integer value) ≠ .null := nofun
  have source : (Fields.optionalDefaulted "src" Decode.text).Reads _ _ :=
    Fields.reads_option (stand "src" (by decide)) isText fun _ _ => rfl
  have federation : (Fields.optionalDefaulted "federation" Decode.text).Reads _ _ :=
    Fields.reads_option (stand "federation" (by decide)) isText fun _ _ => rfl
  have phonetics : (Fields.optionalDefaulted "phonetics" Decode.boolean).Reads _ _ :=
    Fields.reads_option (stand "phonetics" (by decide)) isBoolean fun _ _ => rfl
  have spellcheck : (Fields.optionalDefaulted "spellcheck" Decode.boolean).Reads _ _ :=
    Fields.reads_option (stand "spellcheck" (by decide)) isBoolean fun _ _ => rfl
  have sorts : (Fields.defaulted "sorts" (Decode.list (SortKey.decode reading)) []).Reads _ _ :=
    Fields.reads_list (stand "sorts" (by decide)) (SortKey.decode_toJson reading)
  have count : (Fields.optionalDefaulted "count" Decode.integer).Reads _ _ :=
    Fields.reads_option (stand "count" (by decide)) isNumber
      fun count isCount => Decode.integer_of_fits (fits.count count isCount)
  have start : (Fields.optionalDefaulted "start" Decode.integer).Reads _ _ :=
    Fields.reads_option (stand "start" (by decide)) isNumber
      fun start isStart => Decode.integer_of_fits (fits.start start isStart)
  have type : (Fields.optionalDefaulted "type" Decode.text).Reads _ _ :=
    Fields.reads_option (stand "type" (by decide)) isText fun _ _ => rfl
  have facets : (Fields.defaulted "facets" (Decode.list Decode.text) []).Reads _ _ :=
    Fields.reads_list (stand "facets" (by decide)) fun _ => rfl
  exact ((((((((source.map _).seq federation).seq phonetics).seq spellcheck).seq sorts).seq
    count).seq start).seq type).seq facets

def table (settings : Settings) : Table Json :=
  .ofList settings.members

theorem find?_table (settings : Settings) (key : String) :
    settings.table.find? key = (settings.slots.lookup key).join := by
  rw [table, Table.find?_ofList, members_eq, Json.lookup_setMembers settings.nodup_slots]

theorem decode_toJson {settings : Settings} (fits : settings.Fits) :
    decode settings.toJson = .ok settings := by
  have stand : settings.StandIn settings.table := fun key _ => settings.find?_table key
  exact Fields.decode_of_reads (stand.reads fits .direct) "QuerySettings" .direct

theorem join_lookup_slots (settings : Settings) (key : String) (value : Json) :
    (settings.slots.lookup key).join = some value ↔ (key, some value) ∈ settings.slots := by
  rw [Option.join_eq_some_iff, lookup_eq_some_iff_of_nodup settings.nodup_slots]

theorem mem_table_iff {settings : Settings} {key : String} {value : Json} :
    (key, value) ∈ settings.table.entries ↔ (key, some value) ∈ settings.slots := by
  rw [Table.mem_entries_iff, find?_table, join_lookup_slots]

end Settings

namespace Request

def table (request : Request) : Table Json :=
  .ofList (("cql", .text request.cql) :: request.settings.members)

theorem toJson_eq (request : Request) : request.toJson = .ofTable request.table :=
  rfl

theorem find?_table (request : Request) (key : String) :
    request.table.find? key =
      ((request.settings.slots.lookup key).join).or
        (if key = "cql" then some (.text request.cql) else none) := by
  rw [table, Table.find?_ofList, List.reverse_cons, List.lookup_append, Settings.members_eq,
    Json.lookup_setMembers request.settings.nodup_slots, lookup_single]

theorem find?_setting (request : Request) {key : String} (isSetting : key ≠ "cql") :
    request.table.find? key = (request.settings.slots.lookup key).join := by
  rw [find?_table, if_neg isSetting, Option.or_none]

theorem decode_toJson {request : Request} (fits : request.settings.Fits) :
    decode request.toJson = .ok request := by
  have cql : request.table.entries.lookup "cql" = some (.text request.cql) :=
    request.find?_table "cql"
  have stand : request.settings.StandIn request.table := fun _ => request.find?_setting
  rw [toJson_eq, Json.ofTable, decode, cql]
  dsimp only
  rw [Fields.ofObject_of_reads (stand.reads fits .buffered)]
  rfl

theorem mem_table_iff {request : Request} {key : String} {value : Json} :
    (key, value) ∈ request.table.entries ↔
      (key, value) = ("cql", .text request.cql) ∨ (key, some value) ∈ request.settings.slots := by
  rw [Table.mem_entries_iff]
  by_cases isText : key = "cql"
  · subst isText
    have isNoSetting : ("cql", some value) ∉ request.settings.slots := by
      intro member
      have isName := List.mem_map_of_mem (f := Prod.fst) member
      simp [Settings.slots] at isName
    have found : request.table.find? "cql" = some (.text request.cql) :=
      request.find?_table "cql"
    simp [found, isNoSetting, eq_comm]
  · rw [request.find?_setting isText, Settings.join_lookup_slots]
    simp [isText]

end Request

theorem AttributeUpdate.decode_toJson (update : AttributeUpdate) :
    decode update.toJson = .ok update := by
  have ascending : Ascending [("attribute", Json.text update.property),
      ("values", .array update.values)] :=
    ascending_of_keys (by decide : ["attribute", "values"].Pairwise (· < ·))
  have property : (Fields.required "attribute" Decode.text).Reads _ _ :=
    Fields.reads_required ascending rfl rfl
  have values : (Fields.required "values" (Decode.list Decode.json)).Reads _ _ :=
    Fields.reads_required ascending rfl (Decode.values update.values)
  exact Fields.decode_of_reads ((property.map _).seq values) _ _

theorem MetacardUpdate.decode_toJson (update : MetacardUpdate) :
    decode update.toJson = .ok update := by
  have ascending : Ascending
      [("attributes", Json.array (update.attributes.map AttributeUpdate.toJson)),
        ("ids", .array (update.ids.map .text))] :=
    ascending_of_keys (by decide : ["attributes", "ids"].Pairwise (· < ·))
  have ids : (Fields.required "ids" (Decode.list Decode.text)).Reads _ _ :=
    Fields.reads_required ascending rfl (Decode.texts update.ids)
  have attributes : (Fields.required "attributes" (Decode.list AttributeUpdate.decode)).Reads _ _ :=
    Fields.reads_required ascending rfl
      (Decode.list_map_self fun update _ => update.decode_toJson)
  exact Fields.decode_of_reads ((ids.map _).seq attributes) _ _

namespace SourceInfo

/-- No detail has the name of a member that every source has. -/
structure HasPlainDetails (source : SourceInfo) : Prop where
  id : source.details.find? "id" = none
  isLocal : source.details.find? "local" = none

instance (source : SourceInfo) : Decidable source.HasPlainDetails :=
  decidable_of_iff (source.details.find? "id" = none ∧ source.details.find? "local" = none)
    ⟨fun plain => ⟨plain.1, plain.2⟩, fun plain => ⟨plain.1, plain.2⟩⟩

def table (source : SourceInfo) : Table Json :=
  .ofList ([("id", .text source.id), ("local", .boolean source.isLocal)] ++ source.details.entries)

theorem find?_table (source : SourceInfo) (key : String) :
    source.table.find? key = (source.details.find? key).or
      (if key = "local" then some (.boolean source.isLocal)
        else if key = "id" then some (.text source.id) else none) := by
  have details : source.details.entries.reverse.lookup key = source.details.find? key :=
    lookup_reverse source.details.ascending key
  rw [table, Table.find?_ofList, List.reverse_append, List.lookup_append, details]
  congr 1
  rw [List.reverse_cons, List.lookup_append, List.reverse_singleton, lookup_single, lookup_single]
  by_cases same : key = "local" <;> simp [same]

theorem details_eq {source : SourceInfo} (plain : source.HasPlainDetails) :
    Table.ofList (source.table.entries.filter fun entry =>
      entry.1 ≠ "id" ∧ entry.1 ≠ "local") = source.details := by
  have erased : (source.table.entries.filter fun entry => entry.1 ≠ "id" ∧ entry.1 ≠ "local") =
      ((source.table.erase "local").erase "id").entries := by
    refine Eq.trans ?_ List.filter_filter.symm
    apply List.filter_congr
    simp
  rw [erased, Table.ofList_entries]
  apply Table.ext_find?
  intro key
  by_cases isId : key = "id"
  · rw [isId, Table.find?_erase_self, plain.id]
  · rw [Table.find?_erase_of_ne _ isId]
    by_cases isLocal : key = "local"
    · rw [isLocal, Table.find?_erase_self, plain.isLocal]
    · rw [Table.find?_erase_of_ne _ isLocal, find?_table, if_neg isLocal, if_neg isId,
        Option.or_none]

theorem decode_toJson {source : SourceInfo} (plain : source.HasPlainDetails) :
    decode source.toJson = .ok source := by
  have foundId : source.table.find? "id" = some (.text source.id) := by
    rw [find?_table, plain.id]
    rfl
  have foundLocal : source.table.find? "local" = some (.boolean source.isLocal) := by
    rw [find?_table, plain.isLocal]
    rfl
  have id : (Fields.required "id" Decode.text).Reads source.table.entries source.id :=
    Fields.reads_required source.table.ascending foundId rfl
  have isLocal : (Fields.defaulted "local" Decode.boolean false).Reads source.table.entries
      source.isLocal :=
    Fields.reads_defaulted source.table.ascending foundLocal (Decode.boolean_boolean _) _
  have read : fields.ofObject source.table.entries = .ok (source.id, source.isLocal) :=
    Fields.ofObject_of_reads ((id.map _).seq isLocal)
  have isTable : source.toJson = .object source.table.entries := rfl
  rw [isTable, decode, read]
  exact congrArg (fun details => Except.ok (SourceInfo.mk source.id source.isLocal details))
    (details_eq plain)

/-- A source is read from an object, and all other members of it are details of the source. -/
theorem find?_details_of_decode {found : Json} {source : SourceInfo}
    (read : decode found = .ok source) :
    ∃ members, found = .object members ∧ ∀ key, source.details.find? key =
      if key = "id" ∨ key = "local" then none else (Table.ofList members).find? key := by
  cases found with
  | null | boolean | number | text | array => exact nomatch read
  | object members =>
    obtain ⟨own, _, made⟩ := Outcome.bind_eq_ok read
    obtain rfl := Except.ok.inj made
    refine ⟨members, rfl, fun key => ?_⟩
    have kept := lookup_filter_key (fun name => name ≠ "id" ∧ name ≠ "local") members.reverse key
    rw [List.filter_reverse] at kept
    rw [Table.find?_ofList, Table.find?_ofList, kept]
    by_cases isOwn : key = "id" ∨ key = "local" <;> simp [isOwn, ← not_or]

theorem hasPlainDetails_of_decode {found : Json} {source : SourceInfo}
    (read : decode found = .ok source) : source.HasPlainDetails := by
  obtain ⟨members, _, details⟩ := find?_details_of_decode read
  exact ⟨details "id", details "local"⟩

end SourceInfo

namespace PrimitiveType

theorem raw_ofRaw (raw : String) : (ofRaw raw).raw = raw := by
  have named : ∀ entry ∈ known, entry.2.raw = entry.1 := by decide
  rw [ofRaw]
  cases isKnown : known.lookup raw with
  | none => rfl
  | some type => exact named _ (mem_of_lookup_eq_some isKnown)

def IsRead (type : PrimitiveType) : Prop :=
  ∃ raw, type = ofRaw raw

instance (type : PrimitiveType) : Decidable type.IsRead :=
  decidable_of_iff (type = ofRaw type.raw) ⟨fun same => ⟨_, same⟩, fun ⟨raw, same⟩ => by
    rw [same, raw_ofRaw]⟩

theorem decode_toJson {type : PrimitiveType} (isRead : type.IsRead) :
    decode type.toJson = .ok type := by
  obtain ⟨raw, rfl⟩ := isRead
  exact congrArg (fun raw => Except.ok (ofRaw raw)) (raw_ofRaw raw)

end PrimitiveType

theorem Attribute.decode_toJson {attr : Attribute} (isRead : attr.type.IsRead) :
    decode attr.toJson = .ok attr := by
  have ascending : Ascending [("enums", Json.array (attr.enumeration.map .text)),
      ("id", .text attr.id), ("isInjected", .boolean attr.injected),
      ("multivalued", .boolean attr.multivalued), ("type", attr.type.toJson)] :=
    ascending_of_keys
      (by decide : ["enums", "id", "isInjected", "multivalued", "type"].Pairwise (· < ·))
  have id : (Fields.required "id" Decode.text).Reads _ _ :=
    Fields.reads_required ascending rfl rfl
  have type : (Fields.required "type" PrimitiveType.decode).Reads _ _ :=
    Fields.reads_required ascending rfl (PrimitiveType.decode_toJson isRead)
  have multivalued : (Fields.defaulted "multivalued" Decode.boolean false).Reads _ _ :=
    Fields.reads_defaulted ascending rfl (Decode.boolean_boolean _) _
  have injected : (Fields.defaulted "isInjected" Decode.boolean false).Reads _ _ :=
    Fields.reads_defaulted ascending rfl (Decode.boolean_boolean _) _
  have enumeration : (Fields.defaulted "enums" (Decode.list Decode.text) []).Reads _ _ :=
    Fields.reads_defaulted ascending rfl (Decode.texts attr.enumeration) _
  exact Fields.decode_of_reads
    (((((id.map _).seq type).seq multivalued).seq injected).seq enumeration) _ _

def AttributeGroups.HasReadTypes (groups : AttributeGroups) : Prop :=
  ∀ group ∈ groups.values, ∀ attr ∈ group.values, attr.type.IsRead

instance (groups : AttributeGroups) : Decidable groups.HasReadTypes :=
  inferInstanceAs (Decidable (∀ group ∈ groups.values, ∀ attr ∈ group.values, attr.type.IsRead))

theorem Enumerations.decode_toJson (enumerations : Enumerations) :
    decode enumerations.toJson = .ok enumerations :=
  Decode.table_map Decode.texts enumerations

/-! ## All bodies -/

/-- Requests and settings come back, and a body has a member for the query text, one for each option
that is set and one for each list that is not empty, so that it determines the request. Updates,
attributes whose type is read off a text, and sources that were read come back as well. -/
theorem bodies_read_back :
    (∀ request : Request, request.settings.Fits →
      Request.decode request.toJson = .ok request ∧
        Settings.decode request.settings.toJson = .ok request.settings) ∧
    (∀ request : Request,
      ∃ body settings : Table Json,
        request.toJson = .ofTable body ∧ request.settings.toJson = .ofTable settings ∧
        (∀ key value, (key, value) ∈ body.entries ↔
          (key, value) = ("cql", .text request.cql) ∨
            (key, some value) ∈ request.settings.slots) ∧
        ∀ key value, (key, value) ∈ settings.entries ↔
          (key, some value) ∈ request.settings.slots) ∧
    (∀ left right : Request, left.settings.Fits → right.settings.Fits →
      left.toJson = right.toJson → left = right) ∧
    (∀ update : MetacardUpdate, MetacardUpdate.decode update.toJson = .ok update) ∧
    (∀ attr : Attribute, attr.type.IsRead → Attribute.decode attr.toJson = .ok attr) ∧
    ∀ (found : Json) (source : SourceInfo), SourceInfo.decode found = .ok source →
      SourceInfo.decode source.toJson = .ok source ∧
        ∃ members, found = .object members ∧ ∀ key, source.details.find? key =
          if key = "id" ∨ key = "local" then none else (Table.ofList members).find? key := by
  refine ⟨?_, ?_, ?_, MetacardUpdate.decode_toJson, fun _ => Attribute.decode_toJson, ?_⟩
  · intro request fits
    exact ⟨Request.decode_toJson fits, Settings.decode_toJson fits⟩
  · intro request
    exact ⟨request.table, request.settings.table, rfl, rfl, fun _ _ => Request.mem_table_iff,
      fun _ _ => Settings.mem_table_iff⟩
  · intro left right leftFits rightFits same
    have read := Request.decode_toJson leftFits
    rw [same, Request.decode_toJson rightFits] at read
    exact (Except.ok.inj read).symm
  · intro found source read
    exact ⟨SourceInfo.decode_toJson (SourceInfo.hasPlainDetails_of_decode read),
      SourceInfo.find?_details_of_decode read⟩

/-- A request with every setting, and numbers at both ends of 64 bits. -/
def Request.extreme : Request where
  cql := "(\"title\" = 'x')"
  settings := {
    source := some ""
    federation := some "enterprise"
    phonetics := some false
    spellcheck := some true
    sorts := [⟨"title", .asc⟩, ⟨"title", .descending⟩]
    count := some 0x7fffffffffffffff
    start := some (-0x8000000000000000)
    resultType := some "cql"
    facets := ["type", "type"] }

def SourceInfo.sent : Json :=
  .object [("id", .text "s1"), ("local", .boolean true), ("version", .natural 2)]

theorem bodies_read_back_extreme :
    (Request.extreme.settings.Fits ∧
      Request.decode Request.extreme.toJson = .ok Request.extreme ∧
      Settings.decode Request.extreme.settings.toJson = .ok Request.extreme.settings) ∧
    (∃ update : MetacardUpdate, update.ids = ["m1", "m1"] ∧
      MetacardUpdate.decode update.toJson = .ok update) ∧
    (∃ attr : Attribute, attr.type.IsRead ∧ attr.enumeration = ["1", ""] ∧
      Attribute.decode attr.toJson = .ok attr) ∧
    ∃ source, SourceInfo.decode SourceInfo.sent = .ok source ∧
      SourceInfo.decode source.toJson = .ok source ∧
      source.details.entries = [("version", .natural 2)] := by
  obtain ⟨requests, -, -, updates, attributes, sources⟩ := bodies_read_back
  have fits : Request.extreme.settings.Fits := by decide
  have isRead : (PrimitiveType.ofRaw "LONG").IsRead := ⟨"LONG", rfl⟩
  have source : SourceInfo.decode SourceInfo.sent =
      .ok ⟨"s1", true, .ofList [("version", .natural 2)]⟩ := by rfl
  exact ⟨⟨fits, requests Request.extreme fits⟩,
    ⟨⟨["m1", "m1"], [⟨"title", [.text "x", .null]⟩]⟩, rfl, updates _⟩,
    ⟨⟨"size", .ofRaw "LONG", true, false, ["1", ""]⟩, isRead, rfl, attributes _ isRead⟩,
    ⟨_, source, (sources _ _ source).1, by decide⟩⟩

end Metacard
