import Metacard.Catalog.Store
import Metacard.Proofs.Schema.Refresh
import Metacard.Proofs.Schema.Views
/-!
# The values of published fields

Values that are enumerated for an id are attached to the attribute that the groups report under it,
before the builtin attributes are put ahead. A builtin attribute that no group reports is in the
schema all the same, and has no values, whatever is enumerated for its id.
-/

set_option autoImplicit false

namespace Metacard

namespace Gathered

variable {groups : AttributeGroups} {outcomes : List (String × Except Failure Enumerations)}

theorem record?_eq_none_iff {id : String} :
    record? groups outcomes id = none ↔ id ∉ (walk groups).map Attribute.id := by
  rw [record?, Option.map_eq_none_iff, lastRecord?_eq_none_iff]

theorem mem_walk_of_record? {id : String} {attr : Attribute}
    (found : record? groups outcomes id = some attr) : id ∈ (walk groups).map Attribute.id := by
  apply Classical.byContradiction
  intro unreported
  rw [record?_eq_none_iff.2 unreported] at found
  exact nomatch found

theorem enumeration_of_record? {id : String} {attr : Attribute} {values : List String}
    (found : record? groups outcomes id = some attr)
    (last : lastValues? outcomes id = some values) : attr.enumeration = values := by
  rw [record?, last] at found
  obtain ⟨record, -, rfl⟩ := Option.map_eq_some_iff.1 found
  rfl

theorem enumeration_builtin : ∀ attr ∈ Attribute.builtin, attr.enumeration = [] := by decide

/-- What is enumerated for an id reaches the published attribute just if a group reports the id. -/
theorem IsMerge.enumeration {records : List Attribute} (merge : IsMerge groups outcomes records)
    {attr : Attribute} (member : attr ∈ published groups outcomes records) {values : List String}
    (last : lastValues? outcomes attr.id = some values) :
    attr.enumeration = if attr.id ∈ (walk groups).map Attribute.id then values else [] := by
  rcases List.mem_append.1 member with isPlace | isOther
  · obtain ⟨builtin, isBuiltin, rfl⟩ := List.mem_map.1 isPlace
    cases found : record? groups outcomes builtin.id with
    | some record =>
      rw [found, Option.getD_some] at last
      rw [Option.getD_some]
      have same := id_of_record? found
      rw [same] at last
      rw [same, if_pos (mem_walk_of_record? found), enumeration_of_record? found last]
    | none =>
      rw [Option.getD_none, if_neg (record?_eq_none_iff.1 found)]
      exact enumeration_builtin builtin isBuiltin
  · have found := (merge.mem_iff attr).1 (List.mem_of_mem_filter isOther)
    rw [if_pos (mem_walk_of_record? found), enumeration_of_record? found last]

end Gathered

namespace Schema

theorem IsBuilt.field? {schema : Schema} (isBuilt : schema.IsBuilt) {attr : Attribute}
    (member : attr ∈ schema.attributes) (side : Side) :
    (schema.shape side).field? (safeName attr.id) = some (.ofAttribute side attr) := by
  have distinct : (schema.attributes.map fun other => safeName other.id).Nodup := by
    have apart := isBuilt.wellFormed.apart
    rwa [List.map_map] at apart
  have isSome :
      (schema.attributes.find? fun other => safeName other.id = safeName attr.id).isSome :=
    List.find?_isSome.2 ⟨attr, member, decide_eq_true rfl⟩
  obtain ⟨other, first⟩ := Option.isSome_iff_exists.1 isSome
  have sameName : safeName other.id = safeName attr.id := by simpa using List.find?_some first
  obtain rfl := List.inj_on_of_nodup_map distinct (List.mem_of_find?_eq_some first) member sameName
  rw [field?_shape, first, Option.map_some]

end Schema

namespace Registry

open Gathered

variable {σ : Type}

theorem published_of_refresh {source : MetadataSource σ} {registry after : Registry}
    {state last : σ} {report : RefreshReport}
    (refreshed : refresh source (registry, state) = (.ok report, after, last)) :
    ∃ groups next outcomes records, source.attributeGroups state = (.ok groups, next) ∧
      Enumerated source groups next outcomes last ∧ IsMerge groups outcomes records ∧
      after.current.schema.IsBuilt ∧
      after.current.schema.attributes = published groups outcomes records := by
  obtain ⟨outcomeEq, registryEq⟩ := refresh_eq source registry state
  have stateEq : (Gathered.fetch source state).2 = last := congrArg (·.2.2) refreshed
  rw [refreshed] at outcomeEq registryEq
  cases told : source.attributeGroups state with
  | mk answer next =>
    cases answer with
    | error failure =>
      rw [fetch_failed told] at outcomeEq
      exact nomatch outcomeEq
    | ok groups =>
      obtain ⟨outcomes, left, enumerated⟩ := exists_enumerated source groups next
      rw [fetch_ok told enumerated] at outcomeEq registryEq stateEq
      have merge := isMerge_ofOutcomes groups outcomes
      rcases build_of_isMerge merge with ⟨schema, built, attributes, -⟩ | ⟨_, _, -, failed⟩
      · have advanced := (settle_ok built registry).2
        rw [← registryEq] at advanced
        have current : after.current.schema = schema := congrArg Snapshot.schema advanced.current
        exact ⟨groups, next, outcomes, _, rfl, stateEq ▸ enumerated, merge, current ▸ ⟨_, built⟩,
          current ▸ attributes⟩
      · rw [(settle_error failed registry).1] at outcomeEq
        exact nomatch outcomeEq

/-- For every id in the schema that a refresh publishes and for which anything was enumerated, both
sides have the values that were enumerated last, provided that a group reports the id. If none does,
both sides have no values. -/
theorem refresh_enumerates_reported {source : MetadataSource σ} {registry after : Registry}
    {state last : σ} {report : RefreshReport}
    (refreshed : refresh source (registry, state) = (.ok report, after, last)) :
    ∃ groups next outcomes, source.attributeGroups state = (.ok groups, next) ∧
      Enumerated source groups next outcomes last ∧
      outcomes.map Prod.fst = configGroup :: groups.keys ∧
      ∀ id ∈ after.current.schema.attributes.map Attribute.id, ∀ values,
        lastValues? outcomes id = some values → ∀ side,
          ∃ field, (after.current.schema.shape side).field? (safeName id) = some field ∧
            field.rawId = id ∧
            field.enumeration = if id ∈ (walk groups).map Attribute.id then values else [] := by
  obtain ⟨groups, next, outcomes, records, told, enumerated, merge, isBuilt, attributes⟩ :=
    published_of_refresh refreshed
  refine ⟨groups, next, outcomes, told, enumerated, enumerated.names, ?_⟩
  intro id isId values lastValues side
  obtain ⟨attr, member, rfl⟩ := List.mem_map.1 isId
  exact ⟨_, isBuilt.field? member side, rfl, merge.enumeration (attributes ▸ member) lastValues⟩

/-- A catalog that enumerates values of a builtin attribute, and twice those of another one. -/
def enumerating : Store :=
  ((Store.empty.withGroup "resource" [.plain "media.type" .string]).withEnumerations
    (.ofList [("media.type", ["image"]), ("metacard-tags", ["draft"])])).withGroupEnumerations
      "resource" (.ofList [("media.type", ["image", "text"])])

theorem refresh_enumerates_reported_enumerating :
    ∃ report after, refresh Store.metadata (.new, enumerating) =
        (.ok report, after, enumerating) ∧
      ∀ side, ((after.current.schema.shape side).field? "media_type").map Field.enumeration =
          some ["image", "text"] ∧
        ((after.current.schema.shape side).field? "metacard_tags").map Field.enumeration =
          some [] := by
  have refreshed : refresh Store.metadata (.new, enumerating) =
      (.ok ⟨1, 7, 1, []⟩, (refresh Store.metadata (.new, enumerating)).2.1, enumerating) := by rfl
  obtain ⟨groups, next, outcomes, told, enumerated, -, fields⟩ :=
    refresh_enumerates_reported refreshed
  obtain ⟨isGroups, rfl⟩ := Prod.mk.inj told
  obtain rfl := Except.ok.inj isGroups
  obtain ⟨rfl, -⟩ := enumerated.unique (enumerated_iff.2 ⟨rfl, rfl⟩)
  refine ⟨_, _, refreshed, fun side => ⟨?_, ?_⟩⟩
  · obtain ⟨field, found, -, values⟩ :=
      fields "media.type" (by decide) ["image", "text"] (by decide) side
    exact Option.map_eq_some_iff.2 ⟨field, found, values⟩
  · obtain ⟨field, found, -, values⟩ :=
      fields "metacard-tags" (by decide) ["draft"] (by decide) side
    exact Option.map_eq_some_iff.2 ⟨field, found, values⟩

/-- What is enumerated for a builtin attribute that no group reports is lost. -/
theorem builtin_enumeration_lost :
    ¬ ∀ (store last : Store) (registry after : Registry) (report : RefreshReport)
        (groups : AttributeGroups) (next : Store)
        (outcomes : List (String × Except Failure Enumerations)),
      refresh Store.metadata (registry, store) = (.ok report, after, last) →
      Store.metadata.attributeGroups store = (.ok groups, next) →
      Enumerated Store.metadata groups next outcomes last →
      ∀ id ∈ after.current.schema.attributes.map Attribute.id, ∀ values,
        lastValues? outcomes id = some values → ∀ side,
          ((after.current.schema.shape side).field? (safeName id)).map Field.enumeration =
            some values := by
  intro kept
  have refreshed : refresh Store.metadata (.new, enumerating) =
      (.ok ⟨1, 7, 1, []⟩, (refresh Store.metadata (.new, enumerating)).2.1, enumerating) := by rfl
  have tags := kept enumerating enumerating .new _ _ _ _ _ refreshed rfl
    (enumerated_iff.2 ⟨rfl, rfl⟩) "metacard-tags" (by decide) ["draft"] (by decide) .read
  exact absurd tags (by decide)

end Registry

end Metacard
