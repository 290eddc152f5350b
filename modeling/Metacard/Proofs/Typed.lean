import Metacard.Proofs.Decode
import Metacard.Proofs.Json.Values
import Metacard.Schema.Attribute
/-!
# What is read from a document

Which documents are read as lists, tables, attributes and enumerations, and what is read from them.
-/

set_option autoImplicit false

namespace Metacard

namespace Document

variable {α : Type}

/-- Every key is a text with its entry; of several entries under one key the last one counts. -/
def IsTable (IsEntry : Document → α → Prop) (document : Document) (table : Table α) : Prop :=
  ∃ members entries, document = .object members ∧
    List.Forall₂ (fun member entry => member.1 = some entry.1 ∧ IsEntry member.2 entry.2)
      members entries ∧
    table = .ofList entries

def ofTexts (texts : List String) : Document :=
  .array (texts.map fun text => .text (some text))

end Document

namespace Attribute

def memberNames : List String :=
  ["id", "type", "multivalued", "isInjected", "enums"]

/-- The members of an object are those of an attribute, each of them there once at most. Other
members have a text for a key, and that is all that is asked of them. -/
structure HasMembers (attr : Attribute) (members : List (Option String × Document)) : Prop where
  keys : ∀ member ∈ members, ∃ key, member.1 = some key
  once : ((members.filter fun member => member.1 ∈ memberNames.map some).map Prod.fst).Nodup
  id : (some "id", .text (some attr.id)) ∈ members
  type : ∃ raw, (some "type", .text (some raw)) ∈ members ∧ attr.type = .ofRaw raw
  multivalued : (some "multivalued", .boolean attr.multivalued) ∈ members ∨
    some "multivalued" ∉ members.map Prod.fst ∧ attr.multivalued = false
  injected : (some "isInjected", .boolean attr.injected) ∈ members ∨
    some "isInjected" ∉ members.map Prod.fst ∧ attr.injected = false
  enumeration : (some "enums", .ofTexts attr.enumeration) ∈ members ∨
    some "enums" ∉ members.map Prod.fst ∧ attr.enumeration = []

/-- The items of an array are the members of an attribute in their order. The last ones may be left
out, up to the second. -/
inductive HasItems : Attribute → List Document → Prop
  | two (id raw : String) :
      HasItems ⟨id, .ofRaw raw, false, false, []⟩ [.text (some id), .text (some raw)]
  | three (id raw : String) (multivalued : Bool) :
      HasItems ⟨id, .ofRaw raw, multivalued, false, []⟩
        [.text (some id), .text (some raw), .boolean multivalued]
  | four (id raw : String) (multivalued injected : Bool) :
      HasItems ⟨id, .ofRaw raw, multivalued, injected, []⟩
        [.text (some id), .text (some raw), .boolean multivalued, .boolean injected]
  | five (id raw : String) (multivalued injected : Bool) (enumeration : List String) :
      HasItems ⟨id, .ofRaw raw, multivalued, injected, enumeration⟩
        [.text (some id), .text (some raw), .boolean multivalued, .boolean injected,
          .ofTexts enumeration]

end Attribute

/-- The document is that of an attribute: an object of its members, or an array. -/
inductive Document.IsAttribute : Document → Attribute → Prop
  | object {members : List (Option String × Document)} {attr : Attribute}
      (hasMembers : attr.HasMembers members) : IsAttribute (.object members) attr
  | array {items : List Document} {attr : Attribute} (hasItems : attr.HasItems items) :
      IsAttribute (.array items) attr

namespace Document

variable {α : Type} {read : Document → Option α} {IsEntry : Document → α → Prop}

theorem text?_eq_some_iff {document : Document} {text : String} :
    document.text? = some text ↔ document = .text (some text) := by
  cases document <;> simp [text?]

theorem keyed?_eq_some_iff {member : Option String × Document} {entry : String × α} :
    keyed? read member = some entry ↔ member.1 = some entry.1 ∧ read member.2 = some entry.2 := by
  simp only [keyed?, Option.bind_eq_bind, Option.bind_eq_some_iff, Option.some.injEq]
  constructor
  · rintro ⟨key, isKey, value, isValue, rfl⟩
    exact ⟨isKey, isValue⟩
  · rintro ⟨isKey, isValue⟩
    exact ⟨entry.1, isKey, entry.2, isValue, rfl⟩

theorem table?_eq_some_iff (each : ∀ document value, read document = some value ↔
    IsEntry document value) {document : Document} {table : Table α} :
    document.table? read = some table ↔ document.IsTable IsEntry table := by
  have eachMember (members : List (Option String × Document)) (entries : List (String × α)) :
      members.mapM (keyed? read) = some entries ↔ List.Forall₂
        (fun member entry => member.1 = some entry.1 ∧ IsEntry member.2 entry.2)
          members entries := by
    simp only [Outcome.mapM_eq_some_iff, keyed?_eq_some_iff, each]
  constructor
  · intro isRead
    cases document with
    | null | boolean | number | text | array => exact nomatch isRead
    | object members =>
      obtain ⟨entries, areEntries, rfl⟩ := Option.map_eq_some_iff.1 isRead
      exact ⟨members, entries, rfl, (eachMember members entries).1 areEntries, rfl⟩
  · rintro ⟨members, entries, rfl, areEntries, rfl⟩
    rw [table?, (eachMember members entries).2 areEntries]
    rfl

theorem texts?_eq_some_iff {document : Document} {texts : List String} :
    document.list? text? = some texts ↔ document = .ofTexts texts := by
  cases document with
  | null | boolean | number | text | object => simp [list?, ofTexts]
  | array items =>
    rw [list?, Outcome.mapM_eq_some_iff, ofTexts, Document.array.injEq]
    simp only [text?_eq_some_iff, Outcome.forall₂_eq_map_iff]

/-! ## Records -/

structure AreOwn (names : List String) (members : List (Option String × Document))
    (values : List (String × Json)) : Prop where
  distinct : (values.map Prod.fst).Nodup
  mem_iff : ∀ name value, (name, value) ∈ values ↔ name ∈ names ∧
    ∃ document, (some name, document) ∈ members ∧
      document.json? Json.greatestDepth = some value
  valued : ∀ name ∈ names, ∀ document, (some name, document) ∈ members →
    ∃ value, document.json? Json.greatestDepth = some value

variable {names : List String} {members : List (Option String × Document)}
  {values : List (String × Json)}

theorem areOwn_of_jsonMembers?
    (distinct : ((members.filter fun member => member.1 ∈ names.map some).map Prod.fst).Nodup)
    (made : jsonMembers? Json.greatestDepth
      (members.filter fun member => member.1 ∈ names.map some) = some values) :
    AreOwn names members values := by
  have each := jsonMembers?_eq_some_iff.1 made
  constructor
  · rw [map_fst_of_forall₂ each] at distinct
    exact distinct.of_map some
  · intro name value
    constructor
    · intro isValue
      obtain ⟨⟨key, document⟩, isOwn, isKey, isMade⟩ :=
        Outcome.exists_mem_of_forall₂ each.flip isValue
      obtain rfl : key = some name := isKey
      obtain ⟨isMember, isName⟩ := List.mem_filter.1 isOwn
      exact ⟨by simpa using isName, document, isMember, isMade⟩
    · rintro ⟨isName, document, isMember, isMade⟩
      have isOwn : (some name, document) ∈ members.filter fun member => member.1 ∈ names.map some :=
        List.mem_filter.2 ⟨isMember, by simpa using isName⟩
      obtain ⟨entry, isEntry, isKey, isValue⟩ := Outcome.exists_mem_of_forall₂ each isOwn
      obtain rfl : entry = (name, value) :=
        Prod.ext (Option.some.inj isKey).symm (Option.some.inj (isValue.symm.trans isMade))
      exact isEntry
  · intro name isName document isMember
    have isOwn : (some name, document) ∈ members.filter fun member => member.1 ∈ names.map some :=
      List.mem_filter.2 ⟨isMember, by simpa using isName⟩
    obtain ⟨entry, -, -, isValue⟩ := Outcome.exists_mem_of_forall₂ each isOwn
    exact ⟨entry.2, isValue⟩

namespace AreOwn

variable {name : String}

theorem lookup_eq_some_iff (areOwn : AreOwn names members values) (isName : name ∈ names)
    {value : Json} : values.lookup name = some value ↔ ∃ document,
      (some name, document) ∈ members ∧ document.json? Json.greatestDepth = some value := by
  rw [lookup_eq_some_iff_of_nodup areOwn.distinct, areOwn.mem_iff]
  exact and_iff_right isName

theorem lookup_eq_none_iff (areOwn : AreOwn names members values) (isName : name ∈ names) :
    values.lookup name = none ↔ some name ∉ members.map Prod.fst := by
  rw [Option.eq_none_iff_forall_ne_some]
  simp only [ne_eq, areOwn.lookup_eq_some_iff isName]
  constructor
  · intro noValue isKey
    obtain ⟨⟨key, document⟩, isMember, rfl⟩ := List.mem_map.1 isKey
    obtain ⟨value, isValue⟩ := areOwn.valued name isName document isMember
    exact noValue value ⟨document, isMember, isValue⟩
  · rintro noKey value ⟨document, isMember, -⟩
    exact noKey (List.mem_map_of_mem isMember)

end AreOwn

theorem ownMembers?_eq_some_iff : ownMembers? names members = some values ↔
    ((∀ member ∈ members, member.1.isSome) ∧
      ((members.filter fun member => member.1 ∈ names.map some).map Prod.fst).Nodup) ∧
      jsonMembers? Json.greatestDepth
        (members.filter fun member => member.1 ∈ names.map some) = some values := by
  rw [ownMembers?]
  simp

end Document

theorem PrimitiveType.decode_eq_ok_iff {found : Json} {type : PrimitiveType} :
    decode found = .ok type ↔ ∃ raw, found = .text raw ∧ type = .ofRaw raw := by
  rw [decode]
  cases found <;> simp [Decode.text, Except.map, eq_comm]

namespace Attribute

open Document

theorem ofMembers_eq_ok_iff {values : List (String × Json)} {attr : Attribute} :
    fields.ofMembers values = .ok attr ↔
      values.lookup "id" = some (.text attr.id) ∧
      (∃ raw, values.lookup "type" = some (.text raw) ∧ attr.type = .ofRaw raw) ∧
      (values.lookup "multivalued" = some (.boolean attr.multivalued) ∨
        values.lookup "multivalued" = none ∧ attr.multivalued = false) ∧
      (values.lookup "isInjected" = some (.boolean attr.injected) ∨
        values.lookup "isInjected" = none ∧ attr.injected = false) ∧
      (values.lookup "enums" = some (.array (attr.enumeration.map .text)) ∨
        values.lookup "enums" = none ∧ attr.enumeration = []) := by
  obtain ⟨id, type, multivalued, injected, enumeration⟩ := attr
  simp only [fields, Fields.ofMembers_seq_iff, Fields.ofMembers_map_iff,
    Fields.ofMembers_required_iff, Fields.ofMembers_defaulted_iff, Decode.text_eq_ok_iff,
    Decode.boolean_eq_ok_iff, Decode.texts_eq_ok_iff, PrimitiveType.decode_eq_ok_iff,
    exists_eq_right]
  constructor
  · rintro ⟨_, ⟨_, ⟨_, ⟨_, ⟨id, isId, rfl⟩, type, ⟨_, isType, raw, rfl, isRaw⟩, rfl⟩,
      multivalued, isMultivalued, rfl⟩, injected, isInjected, rfl⟩, enumeration, isEnumeration,
      made⟩
    obtain ⟨rfl, rfl, rfl, rfl, rfl⟩ := Attribute.mk.inj made
    exact ⟨isId, ⟨raw, isType, isRaw⟩, isMultivalued, isInjected, isEnumeration⟩
  · rintro ⟨isId, ⟨raw, isType, isRaw⟩, isMultivalued, isInjected, isEnumeration⟩
    exact ⟨_, ⟨_, ⟨_, ⟨_, ⟨id, isId, rfl⟩, type, ⟨_, isType, raw, rfl, isRaw⟩, rfl⟩,
      multivalued, isMultivalued, rfl⟩, injected, isInjected, rfl⟩, enumeration, isEnumeration,
      rfl⟩

theorem isChecked_fields : fields.IsChecked :=
  ((((Fields.isChecked_member "id" Decode.text none none).map _).seq
    (Fields.isChecked_member _ _ _ _)).seq (Fields.isChecked_member _ _ _ _)).seq
      (Fields.isChecked_member _ _ _ _) |>.seq (Fields.isChecked_member _ _ _ _)

section

variable {members : List (Option String × Document)} {values : List (String × Json)}
  {attr : Attribute}

theorem hasMembers_iff (areOwn : AreOwn memberNames members values)
    (keys : ∀ member ∈ members, ∃ key, member.1 = some key)
    (once : ((members.filter fun member => member.1 ∈ memberNames.map some).map Prod.fst).Nodup) :
    fields.ofMembers values = .ok attr ↔ attr.HasMembers members := by
  have text {name : String} (isName : name ∈ memberNames) {value : String} :
      values.lookup name = some (.text value) ↔ (some name, .text (some value)) ∈ members := by
    simp [areOwn.lookup_eq_some_iff isName, json?_eq_text_iff]
  have boolean {name : String} (isName : name ∈ memberNames) {value : Bool} :
      values.lookup name = some (.boolean value) ↔ (some name, .boolean value) ∈ members := by
    simp [areOwn.lookup_eq_some_iff isName, json?_eq_boolean_iff]
  have texts {name : String} (isName : name ∈ memberNames) {found : List String} :
      values.lookup name = some (.array (found.map .text)) ↔
        (some name, .ofTexts found) ∈ members := by
    simp [areOwn.lookup_eq_some_iff isName, Json.greatestDepth, json?_eq_texts_iff, ofTexts]
  rw [ofMembers_eq_ok_iff, text (by decide), boolean (by decide), boolean (by decide),
    texts (by decide), areOwn.lookup_eq_none_iff (by decide),
    areOwn.lookup_eq_none_iff (by decide), areOwn.lookup_eq_none_iff (by decide)]
  simp only [text (show "type" ∈ memberNames by decide)]
  exact ⟨fun ⟨id, type, multivalued, injected, enumeration⟩ =>
    ⟨keys, once, id, type, multivalued, injected, enumeration⟩,
    fun has => ⟨has.id, has.type, has.multivalued, has.injected, has.enumeration⟩⟩

theorem HasMembers.eq_of_mem (has : attr.HasMembers members) {name : String}
    (isName : name ∈ memberNames) {document other : Document}
    (isMember : (some name, document) ∈ members) (isOther : (some name, other) ∈ members) :
    document = other := by
  have isOwn {found : Document} (isFound : (some name, found) ∈ members) :
      (some name, found) ∈ members.filter fun member => member.1 ∈ memberNames.map some :=
    List.mem_filter.2 ⟨isFound, by simpa using isName⟩
  exact (Prod.mk.inj (List.inj_on_of_nodup_map has.once (isOwn isMember) (isOwn isOther) rfl)).2

theorem HasMembers.exists_values (has : attr.HasMembers members) :
    ∃ values, ownMembers? memberNames members = some values := by
  have valued {name : String} (isName : name ∈ memberNames) {document known : Document}
      (isMember : (some name, document) ∈ members)
      (isKnown : (some name, known) ∈ members ∨ some name ∉ members.map Prod.fst) {value : Json}
      (isValue : known.json? Json.greatestDepth = some value) :
      ∃ value, document.json? Json.greatestDepth = some value := by
    rcases isKnown with isKnown | noKey
    · exact ⟨value, has.eq_of_mem isName isMember isKnown ▸ isValue⟩
    · exact absurd (List.mem_map_of_mem isMember) noKey
  have each : ∀ member ∈ members.filter fun member => member.1 ∈ memberNames.map some,
      ∃ entry : String × Json, member.1 = some entry.1 ∧
        member.2.json? Json.greatestDepth = some entry.2 := by
    rintro ⟨key, document⟩ isOwn
    obtain ⟨isMember, isListed⟩ := List.mem_filter.1 isOwn
    obtain ⟨name, isName, rfl⟩ := List.mem_map.1 (of_decide_eq_true isListed)
    suffices ∃ value, document.json? Json.greatestDepth = some value by
      obtain ⟨value, isValue⟩ := this
      exact ⟨(name, value), rfl, isValue⟩
    have isKnown := isName
    simp only [memberNames, List.mem_cons, List.not_mem_nil, or_false] at isKnown
    rcases isKnown with rfl | rfl | rfl | rfl | rfl
    · exact valued isName isMember (.inl has.id) rfl
    · obtain ⟨raw, isType, -⟩ := has.type
      exact valued isName isMember (.inl isType) rfl
    · exact valued isName isMember (has.multivalued.imp_right And.left) rfl
    · exact valued isName isMember (has.injected.imp_right And.left) rfl
    · exact valued isName isMember (has.enumeration.imp_right And.left)
        (json?_eq_texts_iff.2 rfl)
  obtain ⟨values, made⟩ := exists_jsonMembers? each
  exact ⟨values, ownMembers?_eq_some_iff.2
    ⟨⟨fun member isMember => Option.isSome_iff_exists.2 (has.keys member isMember), has.once⟩,
      made⟩⟩

theorem read?_object_iff : read? (.object members) = some attr ↔ attr.HasMembers members := by
  have ofOwn {values : List (String × Json)}
      (isOwn : ownMembers? memberNames members = some values) :
      fields.ofObject values = .ok attr ↔ attr.HasMembers members := by
    obtain ⟨⟨keys, once⟩, made⟩ := ownMembers?_eq_some_iff.1 isOwn
    have areOwn := areOwn_of_jsonMembers? once made
    rw [Fields.ofObject_eq_ok_iff isChecked_fields areOwn.distinct]
    exact hasMembers_iff areOwn
      (fun member isMember => Option.isSome_iff_exists.1 (keys member isMember)) once
  constructor
  · intro isRead
    obtain ⟨values, isOwn, isRead⟩ := Option.bind_eq_some_iff.1 isRead
    exact (ofOwn isOwn).1 (Outcome.toOption_eq_some isRead)
  · intro has
    obtain ⟨values, isOwn⟩ := has.exists_values
    exact Option.bind_eq_some_iff.2
      ⟨values, isOwn, Outcome.toOption_eq_some_iff.2 ((ofOwn isOwn).2 has)⟩

end

theorem hasItems_of_ofItems {short : Nat → DataFault} {place : Nat} {items : List Document}
    {values : List Json} {attr : Attribute}
    (areValues : List.Forall₂ (fun item value => item.json? 126 = some value) items values)
    (made : fields.ofItems short place values = .ok (attr, [])) : attr.HasItems items := by
  simp only [fields, Fields.ofItems_seq_iff, Fields.ofItems_map_iff, Fields.ofItems_required_iff,
    Fields.ofItems_defaulted_iff, Decode.text_eq_ok_iff, Decode.boolean_eq_ok_iff,
    Decode.texts_eq_ok_iff, PrimitiveType.decode_eq_ok_iff, exists_eq_right] at made
  obtain ⟨_, _, ⟨_, _, ⟨_, _, ⟨_, _, ⟨id, rfl, rfl⟩, _, ⟨_, rfl, raw, rfl, rfl⟩, rfl⟩,
    multivalued, isMultivalued, rfl⟩, injected, isInjected, rfl⟩, enumeration, isEnumeration,
    rfl⟩ := made
  -- A member that is left out has none after it.
  obtain rfl | ⟨rfl, -, rfl⟩ := isEnumeration
  · obtain rfl | ⟨-, noMore, -⟩ := isInjected
    · obtain rfl | ⟨-, noMore, -⟩ := isMultivalued
      · obtain - | ⟨isId, - | ⟨isType, - | ⟨isThird, - | ⟨isFourth, - | ⟨isLast, - | -⟩⟩⟩⟩⟩ :=
          areValues
        obtain rfl := json?_eq_text_iff.1 isId
        obtain rfl := json?_eq_text_iff.1 isType
        obtain rfl := json?_eq_boolean_iff.1 isThird
        obtain rfl := json?_eq_boolean_iff.1 isFourth
        obtain rfl := json?_eq_texts_iff.1 isLast
        exact .five id raw multivalued injected enumeration
      · exact nomatch noMore
    · exact nomatch noMore
  · obtain rfl | ⟨rfl, -, rfl⟩ := isInjected
    · obtain rfl | ⟨-, noMore, -⟩ := isMultivalued
      · obtain - | ⟨isId, - | ⟨isType, - | ⟨isThird, - | ⟨isLast, - | -⟩⟩⟩⟩ := areValues
        obtain rfl := json?_eq_text_iff.1 isId
        obtain rfl := json?_eq_text_iff.1 isType
        obtain rfl := json?_eq_boolean_iff.1 isThird
        obtain rfl := json?_eq_boolean_iff.1 isLast
        exact .four id raw multivalued injected
      · exact nomatch noMore
    · obtain rfl | ⟨rfl, -, rfl⟩ := isMultivalued
      · obtain - | ⟨isId, - | ⟨isType, - | ⟨isLast, - | -⟩⟩⟩ := areValues
        obtain rfl := json?_eq_text_iff.1 isId
        obtain rfl := json?_eq_text_iff.1 isType
        obtain rfl := json?_eq_boolean_iff.1 isLast
        exact .three id raw multivalued
      · obtain - | ⟨isId, - | ⟨isType, - | -⟩⟩ := areValues
        obtain rfl := json?_eq_text_iff.1 isId
        obtain rfl := json?_eq_text_iff.1 isType
        exact .two id raw

theorem ofItems_five {short : Nat → DataFault} {place : Nat} (id raw : String)
    (multivalued injected : Bool) (enumeration : List String) :
    fields.ofItems short place [.text id, .text raw, .boolean multivalued, .boolean injected,
      .array (enumeration.map .text)] =
        .ok (⟨id, .ofRaw raw, multivalued, injected, enumeration⟩, []) := by
  simp only [fields, Fields.ofItems_seq_iff, Fields.ofItems_map_iff, Fields.ofItems_required_iff,
    Fields.ofItems_defaulted_iff, Decode.text_eq_ok_iff, Decode.boolean_eq_ok_iff,
    Decode.texts_eq_ok_iff, PrimitiveType.decode_eq_ok_iff, exists_eq_right]
  exact ⟨_, _, ⟨_, _, ⟨_, _, ⟨_, _, ⟨id, rfl, rfl⟩, _, ⟨_, rfl, raw, rfl, rfl⟩, rfl⟩,
    multivalued, .inl rfl, rfl⟩, injected, .inl rfl, rfl⟩, enumeration, .inl rfl, rfl⟩

theorem read?_array_iff {items : List Document} {attr : Attribute} :
    read? (.array items) = some attr ↔ attr.HasItems items := by
  constructor
  · intro isRead
    obtain ⟨found, isFound, isRead⟩ := Option.bind_eq_some_iff.1 isRead
    obtain ⟨values, areValues, rfl⟩ := Option.map_eq_some_iff.1 isFound
    obtain ⟨⟨_, rest⟩, made, isEnd⟩ := Outcome.bind_eq_ok (Outcome.toOption_eq_some isRead)
    dsimp only at isEnd
    split at isEnd
    · rename_i noRest
      obtain rfl := List.isEmpty_iff.1 noRest
      obtain rfl := Except.ok.inj isEnd
      exact hasItems_of_ofItems (jsonItems?_eq_some_iff.1 areValues) made
    · exact nomatch isEnd
  · intro hasItems
    cases hasItems with
    | two | three | four => rfl
    | five id raw multivalued injected enumeration =>
      have isLast : (ofTexts enumeration).json? 126 = some (.array (enumeration.map .text)) :=
        json?_eq_texts_iff.2 rfl
      have made : (Document.array [.text (some id), .text (some raw), .boolean multivalued,
          .boolean injected, ofTexts enumeration]).json? Json.greatestDepth =
            some (.array [.text id, .text raw, .boolean multivalued, .boolean injected,
              .array (enumeration.map .text)]) := by
        simp only [Json.greatestDepth, json?, jsonItems?, isLast]
        rfl
      refine Option.bind_eq_some_iff.2 ⟨_, made, Outcome.toOption_eq_some_iff.2 ?_⟩
      exact Outcome.bind_eq_ok_iff.2 ⟨_, ofItems_five id raw multivalued injected enumeration, rfl⟩

theorem read?_eq_some_iff {document : Document} {attr : Attribute} :
    read? document = some attr ↔ document.IsAttribute attr := by
  cases document with
  | null | boolean => exact ⟨nofun, nofun⟩
  | number value | text value => cases value <;> exact ⟨nofun, nofun⟩
  | array items =>
    rw [read?_array_iff]
    exact ⟨.array, fun (.array hasItems) => hasItems⟩
  | object members =>
    rw [read?_object_iff]
    exact ⟨.object, fun (.object hasMembers) => hasMembers⟩

end Attribute

theorem AttributeGroups.read?_eq_some_iff {document : Document} {groups : AttributeGroups} :
    read? document = some groups ↔
      document.IsTable (Document.IsTable Document.IsAttribute) groups :=
  Document.table?_eq_some_iff fun _ _ =>
    Document.table?_eq_some_iff fun _ _ => Attribute.read?_eq_some_iff

theorem Enumerations.read?_eq_some_iff {document : Document} {enumerations : Enumerations} :
    read? document = some enumerations ↔
      document.IsTable (fun found values => found = .ofTexts values) enumerations :=
  Document.table?_eq_some_iff fun _ _ => Document.texts?_eq_some_iff

end Metacard
