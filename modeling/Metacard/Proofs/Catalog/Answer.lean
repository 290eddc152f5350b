import Metacard.Catalog.Store
import Metacard.Proofs.Decode
import Metacard.Search.Result
/-!
# What queries of the catalog in memory find

The response of the catalog in memory is always understood. Its records are made of the stored
metacards on the page, in ascending order of id, and its facets count over all stored metacards.
-/

set_option autoImplicit false

namespace Metacard

namespace Json

theorem table?_ofTable (table : Table Json) : (ofTable table).table? = some table := by
  rw [ofTable, table?, Table.ofList_entries]

end Json

namespace Store

def recordOf (card : Table Json) : Record :=
  .ofMetacard (.object [("properties", .ofTable card)]) []

def facetTable (cards : List (Table Json)) (facets : List String) : Table (List FacetBucket) :=
  .ofList (facets.map fun facet =>
    (facet, (facetBuckets cards facet).map fun bucket => ⟨bucket.1, bucket.2⟩))

/-- The result of the `number`-th query, with these settings and no response laid ready. -/
def answer (store : Store) (settings : Settings) (number : Nat) : QueryResult where
  records := (page settings store.cards.values).map recordOf
  status := {
    count := (page settings store.cards.values).length
    elapsed := 0
    hits := store.cards.values.length
    id := some ("memory-" ++ toString number)
    successful := true }
  facets :=
    if settings.facets.isEmpty then none
    else some (facetTable store.cards.values settings.facets)

theorem attributes_recordOf (card : Table Json) :
    (recordOf card).attributes = NameMap.renameToSafe card := by
  have properties : ((Json.object [("properties", .ofTable card)]).member? "properties").bind
      Json.table? = some card := by
    simp [Json.member?, Json.table?_ofTable]
  rw [recordOf, Record.ofMetacard, properties, Option.getD_some]

/-! ## The response read -/

theorem decode_hitJson (card : Table Json) :
    ResponseHit.decode (hitJson card) =
      .ok ⟨.object [("properties", .ofTable card)], []⟩ := by
  have ascending : Ascending [("actions", Json.array []),
      ("metacard", .object [("properties", .ofTable card)])] :=
    ascending_of_keys (by decide : ["actions", "metacard"].Pairwise (· < ·))
  have metacard : (Fields.defaulted "metacard" Decode.json .null).Reads _ _ :=
    Fields.reads_defaulted ascending rfl rfl _
  have noActions : Decode.list MetacardAction.decode (.array []) = .ok [] := rfl
  have actions : (Fields.defaulted "actions" (Decode.list MetacardAction.decode) []).Reads _ _ :=
    Fields.reads_defaulted ascending rfl noActions _
  exact Fields.decode_of_reads ((metacard.map _).seq actions) _ _

theorem decode_status (count hits : Nat) (id : String) :
    ResponseStatus.decode (.object [("count", .natural count), ("elapsed", .natural 0),
      ("hits", .natural hits), ("id", .text id), ("successful", .boolean true)]) =
      .ok ⟨some count, some hits, some true, some (.text id), some 0⟩ := by
  have ascending : Ascending [("count", Json.natural count), ("elapsed", .natural 0),
      ("hits", .natural hits), ("id", .text id), ("successful", .boolean true)] :=
    ascending_of_keys
      (by decide : ["count", "elapsed", "hits", "id", "successful"].Pairwise (· < ·))
  have notNull (n : Nat) : Json.natural n ≠ .null := by simp [Json.natural]
  have counted : (Fields.optional "count" Decode.natural).Reads _ _ :=
    Fields.reads_optional ascending rfl (notNull count) (Decode.natural_natural count)
  have found : (Fields.optional "hits" Decode.natural).Reads _ _ :=
    Fields.reads_optional ascending rfl (notNull hits) (Decode.natural_natural hits)
  have successful : (Fields.optional "successful" Decode.boolean).Reads _ _ :=
    Fields.reads_optional ascending rfl (by simp) rfl
  have named : (Fields.optional "id" Decode.json).Reads _ _ :=
    Fields.reads_optional ascending rfl (by simp) rfl
  have elapsed : (Fields.optional "elapsed" Decode.natural).Reads _ _ :=
    Fields.reads_optional ascending rfl (notNull 0) (Decode.natural_natural 0)
  exact Fields.decode_of_reads
    (((((counted.map _).seq found).seq successful).seq named).seq elapsed) _ _

theorem decode_bucket (bucket : FacetBucket) : FacetBucket.decode bucket.toJson = .ok bucket := by
  have ascending : Ascending [("count", Json.natural bucket.count), ("value", bucket.value)] :=
    ascending_of_keys (by decide : ["count", "value"].Pairwise (· < ·))
  have value : (Fields.required "value" Decode.json).Reads _ _ :=
    Fields.reads_required ascending rfl rfl
  have count : (Fields.required "count" Decode.natural).Reads _ _ :=
    Fields.reads_required ascending rfl (Decode.natural_natural bucket.count)
  exact Fields.decode_of_reads ((value.map _).seq count) _ _

theorem facetsJson_eq (cards : List (Table Json)) (facets : List String) :
    facetsJson cards facets = .ofTable ((facetTable cards facets).map fun buckets =>
      .array (buckets.map FacetBucket.toJson)) := by
  rw [facetTable, Table.map_ofList, facetsJson, Json.record, Json.ofTable, List.map_map]
  simp only [Function.comp_def, List.map_map, FacetBucket.toJson]

theorem decode_facetsJson (cards : List (Table Json)) (facets : List String) :
    Decode.table (Decode.list FacetBucket.decode) (facetsJson cards facets) =
      .ok (facetTable cards facets) := by
  rw [facetsJson_eq]
  apply Decode.table_map
  intro buckets
  rw [Decode.list_map decode_bucket, List.map_id']

theorem decode_response {members : Table Json} {cards : List (Table Json)} {count total : Nat}
    {id : String} (results : members.find? "results" = some (.array (cards.map hitJson)))
    (status : members.find? "status" = some (.object [("count", .natural count),
      ("elapsed", .natural 0), ("hits", .natural total), ("id", .text id),
      ("successful", .boolean true)]))
    (duration : members.find? "request_duration_millis" = some (.natural 0))
    {facets : Option (Table (List FacetBucket))}
    (facetsRead : (Fields.optionalDefaulted "facets"
      (Decode.table (Decode.list FacetBucket.decode))).Reads members.entries facets) :
    Response.decode (.ofTable members) = .ok {
      hits := cards.map fun card => ⟨.object [("properties", .ofTable card)], []⟩
      status := some ⟨some count, some total, some true, some (.text id), some 0⟩
      duration := some 0
      facets } := by
  have hits : (Fields.defaulted "results" (Decode.list ResponseHit.decode) []).Reads
      members.entries _ :=
    Fields.reads_defaulted members.ascending results (Decode.list_map decode_hitJson cards) _
  have complete : (Fields.optional "status" ResponseStatus.decode).Reads members.entries _ :=
    Fields.reads_optional members.ascending status (by simp) (decode_status count total id)
  have lasted : (Fields.optionalDefaulted "request_duration_millis" Decode.natural).Reads
      members.entries _ :=
    Fields.reads_optionalDefaulted members.ascending duration (by simp [Json.natural])
      (Decode.natural_natural 0)
  exact Fields.decode_of_reads ((((hits.map _).seq complete).seq lasted).seq facetsRead) _ _

theorem sorted_eq (store : Store) : store.sorted = store.cards.values := by
  have ordered : store.cards.entries.Pairwise fun left right => decide (left.1 ≤ right.1) = true :=
    store.cards.ascending.imp fun less => decide_eq_true (Std.le_of_lt less)
  rw [sorted, List.mergeSort_of_pairwise ordered]
  rfl

theorem ofJson_respond (store : Store) (settings : Settings) (number : Nat) :
    QueryResult.ofJson (store.respond settings number) = .ok (store.answer settings number) := by
  have decoded : Response.decode (store.respond settings number) = .ok {
      hits := (page settings store.cards.values).map fun card =>
        ⟨.object [("properties", .ofTable card)], []⟩
      status := some ⟨some (page settings store.cards.values).length,
        some store.cards.values.length, some true, some (.text ("memory-" ++ toString number)),
        some 0⟩
      duration := some 0
      facets := (store.answer settings number).facets } := by
    rw [respond, sorted_eq, Json.record, ← Json.ofTable, answer]
    by_cases none : settings.facets.isEmpty = true
    · simp only [none, if_true, List.append_nil]
      exact decode_response (Table.find?_ofList _ _) (Table.find?_ofList _ _)
        (Table.find?_ofList _ _) (Fields.reads_optionalDefaulted_missing (Table.find?_ofList _ _))
    · have isObject : facetsJson store.cards.values settings.facets ≠ .null := by
        simp [facetsJson, Json.record]
      simp only [none, Bool.false_eq_true, if_false]
      exact decode_response (Table.find?_ofList _ _) (Table.find?_ofList _ _)
        (Table.find?_ofList _ _) (Fields.reads_optionalDefaulted (Table.ascending _)
          (Table.find?_ofList _ _) isObject (decode_facetsJson store.cards.values settings.facets))
  have recorded : ((page settings store.cards.values).map fun card =>
      (⟨.object [("properties", .ofTable card)], []⟩ : ResponseHit)).map
        (fun hit => Record.ofMetacard hit.metacard hit.actions) =
      (page settings store.cards.values).map recordOf := List.map_map
  simp only [QueryResult.ofJson, decoded, Response.shape, ResponseStatus.complete, recorded]
  rfl

end Store

end Metacard
