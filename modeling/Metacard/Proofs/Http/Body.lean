import Mathlib.Data.List.Perm.Basic
import Metacard.Http.Remote
import Metacard.Proofs.Http.Wire
import Metacard.Proofs.Json.Grammar
import Metacard.Proofs.Typed
/-!
# What bodies carry

A body carries the value of its text, and it shows the document that its text is read as. Sources
and the enumerations of a configuration are read off the value. Attributes and the enumerations of a
group are read off the document, whatever the order in which their members were written.
-/

set_option autoImplicit false

namespace Metacard

namespace Document

/-- The document is the value written down, with the members of an object in any order. -/
inductive Writes : Document → Json → Prop
  | null : Writes .null .null
  | boolean (value : Bool) : Writes (.boolean value) (.boolean value)
  | number (value : Number) : Writes (.number (some value)) (.number value)
  | text (value : String) : Writes (.text (some value)) (.text value)
  | array {items : List Document} {values : List Json} (each : List.Forall₂ Writes items values) :
      Writes (.array items) (.array values)
  | object {members : List (Option String × Document)} {written entries : List (String × Json)}
      (keys : members.map Prod.fst = written.map fun entry => some entry.1)
      (each : List.Forall₂ Writes (members.map Prod.snd) (written.map Prod.snd))
      (same : written.Perm entries) : Writes (.object members) (.object entries)

theorem map_fst_ofMembers (members : List (String × Json)) :
    (ofMembers members).map Prod.fst = members.map fun entry => some entry.1 := by
  induction members with
  | nil => rfl
  | cons entry rest inductionHypothesis => exact congrArg (some entry.1 :: ·) inductionHypothesis

mutual

theorem writes_ofJson : ∀ value, (ofJson value).Writes value
  | .null => .null
  | .boolean value => .boolean value
  | .number value => .number value
  | .text value => .text value
  | .array items => .array (writes_ofItems items)
  | .object members => .object (map_fst_ofMembers members) (writes_ofMembers members) (.refl _)

theorem writes_ofItems : ∀ items, List.Forall₂ Writes (ofItems items) items
  | [] => .nil
  | item :: rest => .cons (writes_ofJson item) (writes_ofItems rest)

theorem writes_ofMembers : ∀ members : List (String × Json),
    List.Forall₂ Writes ((ofMembers members).map Prod.snd) (members.map Prod.snd)
  | [] => .nil
  | (_, value) :: rest => .cons (writes_ofJson value) (writes_ofMembers rest)

end

namespace Writes

variable {document : Document} {members : List (Option String × Document)}
  {entries : List (String × Json)}

theorem text_iff {text : String} :
    document.Writes (.text text) ↔ document = .text (some text) := by
  constructor
  · rintro ⟨⟩
    rfl
  · rintro rfl
    exact .text text

theorem texts {texts : List String} (writes : document.Writes (.array (texts.map .text))) :
    document = .ofTexts texts := by
  cases writes with
  | array each =>
    rw [List.forall₂_map_right_iff] at each
    simp only [text_iff, Outcome.forall₂_eq_map_iff] at each
    exact congrArg Document.array each

theorem exists_written (writes : (Document.object members).Writes (.object entries)) :
    ∃ written, List.Forall₂ (fun member entry => member.1 = some entry.1 ∧
      member.2.Writes entry.2) members written ∧ written.Perm entries := by
  cases writes with
  | object keys each same =>
    rw [← List.forall₂_eq_eq_eq, List.forall₂_map_left_iff, List.forall₂_map_right_iff] at keys
    rw [List.forall₂_map_left_iff, List.forall₂_map_right_iff] at each
    exact ⟨_, keys.mp (fun _ _ isKey isWritten => ⟨isKey, isWritten⟩) each, same⟩

theorem exists_member (writes : (Document.object members).Writes (.object entries)) {key : String}
    {value : Json} (isEntry : (key, value) ∈ entries) :
    ∃ document, (some key, document) ∈ members ∧ document.Writes value := by
  obtain ⟨written, each, same⟩ := writes.exists_written
  obtain ⟨⟨_, document⟩, isMember, isKey, isWritten⟩ :=
    Outcome.exists_mem_of_forall₂ each.flip (same.mem_iff.2 isEntry)
  exact ⟨document, isKey ▸ isMember, isWritten⟩

theorem isTable {α : Type} {toJson : α → Json} {table : Table α}
    {IsEntry : Document → α → Prop}
    (each : ∀ value ∈ table.values, ∀ found : Document, found.Writes (toJson value) →
      IsEntry found value)
    (writes : document.Writes (.ofTable (table.map toJson))) :
    document.IsTable IsEntry table := by
  obtain ⟨members, rfl⟩ : ∃ members, document = .object members := by
    cases writes
    exact ⟨_, rfl⟩
  obtain ⟨written, areWritten, same⟩ := writes.exists_written
  let write (entry : String × α) : String × Json := (entry.1, toJson entry.2)
  -- What is written is a permutation of the entries with each of them written in its place.
  have arranged : Relation.Comp (fun written entries => written = entries.map write) List.Perm
      written table.entries := by
    rw [List.eq_map_comp_perm write]
    exact same
  obtain ⟨entries, rfl, permuted⟩ := arranged
  rw [List.forall₂_map_right_iff] at areWritten
  refine ⟨members, entries, rfl, ?_, (Table.ofList_of_perm permuted).symm⟩
  refine List.forall₂_iff_zip.2 ⟨areWritten.length_eq, fun {member entry} isPair => ?_⟩
  obtain ⟨isKey, isWritten⟩ := (List.forall₂_iff_zip.1 areWritten).2 isPair
  have isEntry : entry ∈ table.entries := permuted.mem_iff.1 (List.of_mem_zip isPair).2
  exact ⟨isKey, each entry.2 (List.mem_map_of_mem isEntry) member.2 isWritten⟩

end Writes

end Document

namespace Attribute

open Document

theorem hasMembers_of_writes {members : List (Option String × Document)} {attr : Attribute}
    (types : attr.type.IsRead) (writes : (Document.object members).Writes attr.toJson) :
    attr.HasMembers members := by
  obtain ⟨written, areWritten, same⟩ := writes.exists_written
  have distinct : (members.map Prod.fst).Nodup := by
    rw [map_fst_of_forall₂ areWritten, List.nodup_map_iff (Option.some_injective String), (same.map Prod.fst).nodup_iff]
    exact (by decide : ["enums", "id", "isInjected", "multivalued", "type"].Nodup)
  have member {key : String} {value : Json} (isEntry : attr.toJson.member? key = some value) :
      ∃ document, (some key, document) ∈ members ∧ document.Writes value :=
    writes.exists_member (mem_of_lookup_eq_some isEntry)
  have boolean {key : String} {value : Bool}
      (isEntry : attr.toJson.member? key = some (.boolean value)) :
      (some key, .boolean value) ∈ members := by
    obtain ⟨_, isMember, ⟨⟩⟩ := member isEntry
    exact isMember
  have text {key : String} {value : String}
      (isEntry : attr.toJson.member? key = some (.text value)) :
      (some key, .text (some value)) ∈ members := by
    obtain ⟨_, isMember, ⟨⟩⟩ := member isEntry
    exact isMember
  constructor
  case keys =>
    rintro ⟨key, document⟩ isMember
    obtain ⟨entry, -, isKey, -⟩ := Outcome.exists_mem_of_forall₂ areWritten isMember
    exact ⟨entry.1, isKey⟩
  case once => exact distinct.sublist (List.filter_sublist.map Prod.fst)
  case id => exact text rfl
  case type =>
    obtain ⟨raw, same⟩ := types
    exact ⟨attr.type.raw, text rfl, by rw [same, PrimitiveType.raw_ofRaw]⟩
  case multivalued => exact .inl (boolean rfl)
  case injected => exact .inl (boolean rfl)
  case enumeration =>
    obtain ⟨found, isMember, isWritten⟩ := @member "enums" _ rfl
    exact .inl (isWritten.texts ▸ isMember)

theorem isAttribute_of_writes {document : Document} {attr : Attribute} (types : attr.type.IsRead)
    (writes : document.Writes attr.toJson) : document.IsAttribute attr := by
  cases writes with
  | object keys each same =>
    exact .object (hasMembers_of_writes types (.object keys each same))

end Attribute

theorem AttributeGroups.isTable_of_writes {document : Document} {groups : AttributeGroups}
    (types : groups.HasReadTypes) (writes : document.Writes groups.toJson) :
    document.IsTable (Document.IsTable Document.IsAttribute) groups :=
  Document.Writes.isTable (fun group isGroup _ writes => Document.Writes.isTable
    (fun attr isAttribute _ writes =>
      Attribute.isAttribute_of_writes (types group isGroup attr isAttribute) writes) writes) writes

theorem Enumerations.isTable_of_writes {document : Document} {enumerations : Enumerations}
    (writes : document.Writes enumerations.toJson) :
    document.IsTable (fun found values => found = .ofTexts values) enumerations :=
  Document.Writes.isTable (fun _ _ _ writes => writes.texts) writes

theorem Enumerations.decode_eq_ok_iff {found : Json} {enumerations : Enumerations} :
    decode found = .ok enumerations ↔ ∃ entries : List (String × List String),
      found = .object (entries.map fun entry => (entry.1, .array (entry.2.map .text))) ∧
        enumerations = .ofList entries := by
  have each (members : List (String × Json)) (entries : List (String × List String)) :
      List.Forall₂ (fun member entry => member.1 = entry.1 ∧
        Decode.list Decode.text member.2 = .ok entry.2) members entries ↔
          members = entries.map fun entry => (entry.1, .array (entry.2.map .text)) := by
    rw [← Outcome.forall₂_eq_map_iff]
    simp only [Decode.texts_eq_ok_iff, Prod.ext_iff]
  rw [decode, Decode.table_eq_ok_iff]
  simp only [each]
  constructor
  · rintro ⟨_, entries, rfl, rfl, same⟩
    exact ⟨entries, rfl, same⟩
  · rintro ⟨entries, rfl, same⟩
    exact ⟨_, entries, rfl, rfl, same⟩

namespace SourceInfo

/-- The members of an object are those of a source, and all others of them its details. -/
structure HasMembers (source : SourceInfo) (members : List (String × Json)) : Prop where
  id : members.lookup "id" = some (.text source.id)
  isLocal : members.lookup "local" = some (.boolean source.isLocal) ∨
    members.lookup "local" = none ∧ source.isLocal = false
  ids : ∀ found, ("id", found) ∈ members → ∃ id, found = .text id
  locals : ∀ found, ("local", found) ∈ members → ∃ isLocal, found = .boolean isLocal
  details : ∀ key, source.details.find? key =
    if key = "id" ∨ key = "local" then none else (Table.ofList members).find? key

theorem checkAll_eq_ok_iff {members : List (String × Json)} :
    fields.checkAll members = .ok () ↔
      (∀ found, ("id", found) ∈ members → ∃ id, found = .text id) ∧
        ∀ found, ("local", found) ∈ members → ∃ isLocal, found = .boolean isLocal := by
  rw [Fields.checkAll_eq_ok_iff]
  simp only [fields, Fields.required, Fields.defaulted, Fields.check_seq_iff,
    Fields.check_map_iff, Fields.check_member_iff, Decode.text_eq_ok_iff,
    Decode.boolean_eq_ok_iff]
  constructor
  · intro checks
    exact ⟨fun found isMember => (checks _ isMember).1 rfl,
      fun found isMember => (checks _ isMember).2 rfl⟩
  · rintro ⟨ids, locals⟩ ⟨key, found⟩ isMember
    exact ⟨fun isId => ids found (isId ▸ isMember),
      fun isLocal => locals found (isLocal ▸ isMember)⟩

theorem ofMembers_eq_ok_iff {members : List (String × Json)} {id : String} {isLocal : Bool} :
    fields.ofMembers members = .ok (id, isLocal) ↔ members.lookup "id" = some (.text id) ∧
      (members.lookup "local" = some (.boolean isLocal) ∨
        members.lookup "local" = none ∧ isLocal = false) := by
  simp only [fields, Fields.ofMembers_seq_iff, Fields.ofMembers_map_iff,
    Fields.ofMembers_required_iff, Fields.ofMembers_defaulted_iff, Decode.text_eq_ok_iff,
    Decode.boolean_eq_ok_iff, exists_eq_right]
  constructor
  · rintro ⟨_, ⟨_, isId, rfl⟩, _, found, made⟩
    obtain ⟨rfl, rfl⟩ := Prod.mk.inj made
    exact ⟨isId, found⟩
  · rintro ⟨isId, found⟩
    exact ⟨_, ⟨_, isId, rfl⟩, _, found, rfl⟩

theorem decode_object_iff {members : List (String × Json)} {source : SourceInfo} :
    decode (.object members) = .ok source ↔ source.HasMembers members := by
  constructor
  · intro read
    obtain ⟨_, isObject, details⟩ := find?_details_of_decode read
    obtain rfl := Json.object.inj isObject
    obtain ⟨own, isOwn, made⟩ := Outcome.bind_eq_ok read
    obtain ⟨_, checks, isOwn⟩ := Outcome.bind_eq_ok isOwn
    obtain ⟨ids, locals⟩ := checkAll_eq_ok_iff.1 checks
    obtain ⟨isId, isLocal⟩ := ofMembers_eq_ok_iff.1 isOwn
    obtain rfl := Except.ok.inj made
    exact ⟨isId, isLocal, ids, locals, details⟩
  · intro has
    have isOwn : fields.ofObject members = .ok (source.id, source.isLocal) :=
      Outcome.bind_eq_ok_iff.2 ⟨(), checkAll_eq_ok_iff.2 ⟨has.ids, has.locals⟩,
        ofMembers_eq_ok_iff.2 ⟨has.id, has.isLocal⟩⟩
    have read : decode (.object members) = .ok ⟨source.id, source.isLocal, .ofList
        (members.filter fun entry => entry.1 ≠ "id" ∧ entry.1 ≠ "local")⟩ :=
      Outcome.bind_eq_ok_iff.2 ⟨_, isOwn, rfl⟩
    obtain ⟨_, isObject, details⟩ := find?_details_of_decode read
    obtain rfl := Json.object.inj isObject
    rw [read]
    exact congrArg (fun details => Except.ok (SourceInfo.mk source.id source.isLocal details))
      (Table.ext_find? fun key => (details key).trans (has.details key).symm)

theorem decode_eq_ok_iff {found : Json} {source : SourceInfo} :
    decode found = .ok source ↔
      ∃ members, found = .object members ∧ source.HasMembers members := by
  cases found with
  | null | boolean | number | text | array => simp [decode]
  | object members => simp [decode_object_iff]

end SourceInfo

/-! ## Bodies -/

namespace Http.Body

/-- A text carries the value that it is JSON for. -/
inductive Carries : Body → Json → Prop
  | text {text : String} {value : Json} (isText : Json.IsText Json.greatestDepth text value) :
      Carries (.text text) value
  | json (value : Json) : Carries (.json value) value

inductive Shows : Body → Document → Prop
  | text {text : String} {document : Document} (isText : Document.IsText text document) :
      Shows (.text text) document
  | json (value : Json) : Shows (.json value) (.ofJson value)

variable {body : Body}

theorem value?_eq_some_iff {value : Json} : body.value? = some value ↔ body.Carries value := by
  cases body with
  | text written => exact Json.parse?_eq_some_iff.trans ⟨.text, fun (.text isText) => isText⟩
  | json found =>
    constructor
    · rintro ⟨⟩
      exact .json _
    · rintro ⟨⟩
      rfl

theorem document?_eq_some_iff {document : Document} :
    body.document? = some document ↔ body.Shows document := by
  cases body with
  | text written => exact Document.parse?_eq_some_iff.trans ⟨.text, fun (.text isText) => isText⟩
  | json found =>
    constructor
    · rintro ⟨⟩
      exact .json _
    · rintro ⟨⟩
      rfl

theorem typed_eq_some_iff {α : Type} {read? : Document → Option α} {value : α} :
    Remote.typed read? body = some value ↔
      ∃ document, body.Shows document ∧ read? document = some value := by
  rw [Remote.typed, Option.bind_eq_some_iff]
  simp only [document?_eq_some_iff]

end Http.Body

end Metacard
