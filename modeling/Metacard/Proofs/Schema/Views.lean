import Mathlib.Data.List.Find
import Mathlib.Data.List.Induction
import Metacard.Proofs.Schema.KnownIds
import Metacard.Proofs.Schema.Merge
import Metacard.Proofs.Schema.Publish
/-!
# The views of a schema

A schema is seen as a list of attributes, as the way back from safe names, and as the fields of its
two sides. Whatever attributes it is built of, each of these has the same attributes, and a name
leads to the same attribute in all of them.
-/

set_option autoImplicit false

namespace Metacard

theorem eraseDups_append_singleton (ids : List String) (id : String) :
    (ids ++ [id]).eraseDups = if id ∈ ids then ids.eraseDups else ids.eraseDups ++ [id] := by
  rw [List.eraseDups_append, List.removeAll]
  by_cases present : id ∈ ids <;> simp [present, List.eraseDups_cons]

theorem lastRecord?_append_singleton (attributes : List Attribute) (attr : Attribute)
    (id : String) : lastRecord? (attributes ++ [attr]) id =
      if attr.id = id then some attr else lastRecord? attributes id := by
  rw [lastRecord?, List.reverse_append, List.reverse_singleton, List.singleton_append,
    List.find?_cons, lastRecord?]
  by_cases same : attr.id = id <;> simp [same]

theorem mergeAttributes_append_singleton (attributes : List Attribute) (attr : Attribute) :
    mergeAttributes (attributes ++ [attr]) = mergeAttribute attr (mergeAttributes attributes) := by
  rw [mergeAttributes, List.foldl_append, List.foldl_cons, List.foldl_nil, mergeAttributes]

theorem map_id_mergeAttributes (attributes : List Attribute) :
    (mergeAttributes attributes).map Attribute.id = (attributes.map Attribute.id).eraseDups := by
  induction attributes using List.reverseRecOn with
  | nil => rfl
  | append_singleton earlier attr inductionHypothesis =>
    rw [mergeAttributes_append_singleton, map_id_mergeAttribute, inductionHypothesis,
      List.map_append, List.map_singleton, eraseDups_append_singleton]
    simp only [List.mem_eraseDups]

theorem nodup_mergeAttributes (attributes : List Attribute) :
    ((mergeAttributes attributes).map Attribute.id).Nodup := by
  induction attributes using List.reverseRecOn with
  | nil => exact List.nodup_nil
  | append_singleton earlier attr inductionHypothesis =>
    rw [mergeAttributes_append_singleton]
    exact nodup_mergeAttribute attr inductionHypothesis

theorem lastRecord?_of_mem_mergeAttributes {attributes : List Attribute} :
    ∀ attr ∈ mergeAttributes attributes, lastRecord? attributes attr.id = some attr := by
  induction attributes using List.reverseRecOn with
  | nil => exact fun _ member => nomatch member
  | append_singleton earlier last inductionHypothesis =>
    intro attr member
    rw [mergeAttributes_append_singleton, mergeAttribute_eq (nodup_mergeAttributes earlier)]
      at member
    rw [lastRecord?_append_singleton]
    split at member
    · obtain ⟨existing, isExisting, rfl⟩ := List.mem_map.1 member
      by_cases same : existing.id = last.id
      · simp [replace, same]
      · have differs : last.id ≠ existing.id := fun equal => same equal.symm
        rw [replace, if_neg same, if_neg differs]
        exact inductionHypothesis existing isExisting
    · rename_i fresh
      rcases List.mem_append.1 member with isEarlier | isLast
      · have differs : last.id ≠ attr.id := fun equal =>
          fresh (equal ▸ List.mem_map_of_mem isEarlier)
        rw [if_neg differs]
        exact inductionHypothesis attr isEarlier
      · rw [List.mem_singleton.1 isLast, if_pos rfl]

theorem mergeAttributes_eq_firsts (attributes : List Attribute) :
    mergeAttributes attributes =
      (attributes.map Attribute.id).eraseDups.filterMap (lastRecord? attributes) := by
  have kept : (mergeAttributes attributes).filterMap (lastRecord? attributes ∘ Attribute.id) =
      (mergeAttributes attributes).filterMap some :=
    List.filterMap_congr lastRecord?_of_mem_mergeAttributes
  rw [← map_id_mergeAttributes, List.filterMap_map, kept, List.filterMap_some]

/-! ## Fields of both sides -/

/-- The fields that the sides of a schema have for an attribute. A type that is no scalar has a name
of its own on each side. -/
structure Field.ArePair (attr : Attribute) (read write : Field) : Prop where
  name : read.name = safeName attr.id ∧ write.name = safeName attr.id
  rawId : read.rawId = attr.id ∧ write.rawId = attr.id
  list : read.type.list = attr.multivalued ∧ write.type.list = attr.multivalued
  enumeration : read.enumeration = attr.enumeration ∧ write.enumeration = attr.enumeration
  base : (∃ scalar, read.type.base = .scalar scalar ∧ write.type.base = .scalar scalar) ∨
    ∃ name, read.type.base = .nominal name ∧ write.type.base = .nominal (name ++ "Input")

theorem Field.arePair_ofAttribute (attr : Attribute) :
    ArePair attr (ofAttribute .read attr) (ofAttribute .write attr) where
  name := ⟨rfl, rfl⟩
  rawId := ⟨rfl, rfl⟩
  list := ⟨rfl, rfl⟩
  enumeration := ⟨rfl, rfl⟩
  base := by
    cases isScalar : Scalar.ofPrimitive? attr.type with
    | some scalar =>
      exact .inl ⟨scalar, by simp [ofAttribute, BaseType.ofPrimitive, isScalar],
        by simp [ofAttribute, BaseType.ofPrimitive, isScalar]⟩
    | none =>
      exact .inr ⟨nominalName attr.type.raw .read,
        by simp [ofAttribute, BaseType.ofPrimitive, isScalar],
        by simp [ofAttribute, BaseType.ofPrimitive, isScalar, nominalName]⟩

namespace Schema

theorem map_name_shape (schema : Schema) (side : Side) :
    (schema.shape side).fields.map Field.name =
      (schema.attributes.map Attribute.id).map safeName := by
  rw [shape, List.map_map, List.map_map]
  rfl

theorem field?_shape (schema : Schema) (side : Side) (name : String) :
    (schema.shape side).field? name =
      (schema.attributes.find? fun attr => safeName attr.id = name).map (.ofAttribute side) := by
  rw [Shape.field?, shape, List.find?_map]
  rfl

section

variable {schema : Schema} {name : String}

theorem find?_of_known (knows : schema.names.Knows (schema.attributes.map Attribute.id))
    (isKnown : schema.names.isKnown name = true) :
    ∃ attr, schema.find? (schema.names.toRaw name) = some attr ∧
      attr.id = schema.names.toRaw name ∧
      (schema.attributes.find? fun attr => safeName attr.id = name) = some attr := by
  obtain ⟨raw, found⟩ := Option.isSome_iff_exists.1 isKnown
  obtain ⟨isRaw, same⟩ := knows.only name raw found
  have toRaw : schema.names.toRaw name = raw := by rw [NameMap.toRaw, found, Option.getD_some]
  obtain ⟨reported, isReported, rfl⟩ := List.mem_map.1 isRaw
  have isSome : (schema.find? reported.id).isSome := by
    rw [find?, List.find?_isSome]
    exact ⟨reported, isReported, by simp⟩
  obtain ⟨attr, isAttr⟩ := Option.isSome_iff_exists.1 isSome
  have sameId : attr.id = reported.id := by
    rw [find?] at isAttr
    simpa using List.find?_some isAttr
  refine ⟨attr, toRaw ▸ isAttr, sameId.trans toRaw.symm, ?_⟩
  rw [← isAttr, find?]
  apply List.find?_congr
  intro other isOther
  simp only [decide_eq_decide, ← same]
  exact ⟨knows.apart other.id (List.mem_map_of_mem isOther) reported.id isRaw, congrArg safeName⟩

theorem find?_of_unknown (knows : schema.names.Knows (schema.attributes.map Attribute.id))
    (isUnknown : schema.names.isKnown name = false) :
    (schema.attributes.find? fun attr => safeName attr.id = name) = none := by
  rw [List.find?_eq_none]
  intro attr member same
  have found := knows.find? attr.id (List.mem_map_of_mem member)
  rw [of_decide_eq_true same] at found
  simp [NameMap.isKnown, Table.contains, found] at isUnknown

end

/-- All views of a schema show the attributes it was built of: each id once, where it was first
reported, with the record that was last reported. -/
structure ViewsOf (attributes : List Attribute) (schema : Schema) : Prop where
  merged : schema.attributes =
    (attributes.map Attribute.id).eraseDups.filterMap (lastRecord? attributes)
  size : schema.names.size = schema.attributes.length
  lengths : ∀ side, (schema.shape side).fields.length = schema.attributes.length
  pairs : ∀ (place : Nat) (attr : Attribute), schema.attributes[place]? = some attr →
    ∃ read write, (schema.shape .read).fields[place]? = some read ∧
      (schema.shape .write).fields[place]? = some write ∧ Field.ArePair attr read write
  distinct : ∀ side, ((schema.shape side).fields.map Field.name).Nodup
  /-- A name is unknown to all views, or it leads to one attribute in all of them. -/
  names : ∀ name,
    (schema.names.isKnown name = false ∧ ∀ side, (schema.shape side).field? name = none) ∨
      (schema.names.isKnown name = true ∧
        ∃ attr, schema.find? (schema.names.toRaw name) = some attr ∧
          attr.id = schema.names.toRaw name ∧
          ∀ side, (schema.shape side).field? name = some (.ofAttribute side attr))

theorem viewsOf_of_merged {attributes : List Attribute} {schema : Schema}
    (merged : schema.attributes = mergeAttributes attributes)
    (knows : schema.names.Knows (schema.attributes.map Attribute.id)) :
    ViewsOf attributes schema := by
  have distinct : (schema.attributes.map Attribute.id).Nodup :=
    merged ▸ nodup_mergeAttributes attributes
  refine ⟨merged.trans (mergeAttributes_eq_firsts attributes), ?_, fun side => List.length_map _,
    ?_, ?_, ?_⟩
  · rw [knows.size_eq_card, List.toFinset_card_of_nodup distinct, List.length_map]
  · intro place attr isAttr
    refine ⟨.ofAttribute .read attr, .ofAttribute .write attr, ?_, ?_,
      Field.arePair_ofAttribute attr⟩ <;>
    · rw [shape, List.getElem?_map, isAttr]
      rfl
  · intro side
    rw [map_name_shape]
    exact (List.nodup_map_iff_inj_on distinct).2 knows.apart
  · intro name
    cases isKnown : schema.names.isKnown name with
    | false =>
      refine .inl ⟨rfl, fun side => ?_⟩
      rw [field?_shape, find?_of_unknown knows isKnown, Option.map_none]
    | true =>
      obtain ⟨attr, isAttr, sameId, named⟩ := find?_of_known knows isKnown
      refine .inr ⟨rfl, attr, isAttr, sameId, fun side => ?_⟩
      rw [field?_shape, named, Option.map_some]

theorem apart_merged_iff (attributes : List Attribute) :
    Apart ((mergeAttributes attributes).map Attribute.id) ↔
      Apart (attributes.map Attribute.id) := by
  simp only [Apart, map_id_mergeAttributes, List.mem_eraseDups]

/-- A schema is built just if different ids have different safe names, and then all its views show
the same attributes. -/
theorem build_views_agree (attributes : List Attribute) :
    ((∃ schema, build attributes = .ok schema) ↔ Apart (attributes.map Attribute.id)) ∧
      ∀ schema, build attributes = .ok schema → ViewsOf attributes schema := by
  rw [← apart_merged_iff]
  rcases build_cases attributes with ⟨names, built, knows⟩ | ⟨first, second, collision, failed⟩
  · rw [built]
    refine ⟨⟨fun _ => knows.apart, fun _ => ⟨_, rfl⟩⟩, fun schema same => ?_⟩
    exact Except.ok.inj same ▸ viewsOf_of_merged rfl knows
  · rw [failed]
    refine ⟨⟨nofun, fun apart => ?_⟩, nofun⟩
    exact absurd (apart _ collision.mem_first _ collision.mem_second collision.same)
      collision.differ

/-- An id reported twice, with a type that is no scalar the second time. -/
theorem build_views_agree_repeated :
    let attributes : List Attribute := [.plain "point-of.contact" .string, .plain "title" .string,
      .plain "point-of.contact" (.other "PERSON")]
    ∃ schema, build attributes = .ok schema ∧ ViewsOf attributes schema ∧
      schema.attributes = [.plain "point-of.contact" (.other "PERSON"), .plain "title" .string] ∧
      (schema.shape .write).field? "point_of_contact" =
        some ⟨"point_of_contact", "point-of.contact", ⟨.nominal "PERSONInput", false⟩, []⟩ := by
  intro attributes
  have built : build attributes = .ok ⟨mergeAttributes attributes, ⟨.ofList
      [("point_of_contact", "point-of.contact"), ("title", "title")]⟩⟩ := by rfl
  exact ⟨_, built, (build_views_agree attributes).2 _ built, by decide, by decide⟩

end Schema

end Metacard
