import Mathlib.Data.List.Forall2
import Metacard.Proofs.Search.Shaping
/-!
# What a result shows of its response

A response becomes a result just if it has a status with a count, a number of hits and whether it is
successful; else the first of these that is missing is reported. The result has one record for each
hit, in the same order, and nothing else is changed. What a record tells by a name without dashes,
dots and underscores, it tells of the raw property with this very name.
-/

set_option autoImplicit false

namespace Metacard

/-- The filter that a stored property stands for, as a JSON text or as a JSON value. -/
def Filter.ofStored : Json → Except Failure Filter
  | .text text =>
      match Json.parse? text with
      | some tree => (ofJson tree).mapError .filter
      | none => .error (.serialization .jsonMalformed)
  | tree => (ofJson tree).mapError .filter

theorem Related.ids_ofProperty (stored : Option Json) : (Related.ofProperty stored).ids =
    match stored with
    | some (.array items) => items.filterMap Json.text?
    | some (.text id) => [id]
    | _ => [] := by
  rcases stored with - | stored
  · rfl
  · cases stored <;> rfl

namespace Record

theorem filterTree?_eq (record : Record) :
    record.filterTree? = (record.get? "filterTree").map Filter.ofStored := by
  rw [filterTree?]
  congr 1

theorem get?_of_plain {record : Record} (isShaped : record.IsShaped) {name : String}
    (safe : safeName name = name) (plain : '_' ∉ name.toList) :
    record.get? name = record.properties.find? name := by
  have alone : ∀ other ∈ record.properties.keys, safeName other = safeName name → other = name := by
    intro other _ same
    exact eq_of_safeName_eq (same.trans safe) plain
  have found := Table.find?_rekey_of_alone alone
  rwa [safe, ← isShaped] at found

structure Shows (hit : ResponseHit) (record : Record) : Prop where
  metacard : record.metacard = hit.metacard
  actions : record.actions = hit.actions
  attributes : record.attributes = NameMap.renameToSafe record.properties
  id : record.id? = (record.properties.find? "id").bind Json.text?
  filterTree : record.filterTree? = (record.properties.find? "filterTree").map Filter.ofStored
  related : record.related.ids =
    match record.properties.find? "queries" with
    | some (.array items) => items.filterMap Json.text?
    | some (.text id) => [id]
    | _ => []

theorem shows_ofMetacard (hit : ResponseHit) : Shows hit (ofMetacard hit.metacard hit.actions) := by
  have isShaped := isShaped_ofMetacard hit.metacard hit.actions
  refine ⟨rfl, rfl, rfl, ?_, ?_, ?_⟩
  · rw [id?, get?_of_plain isShaped (by decide) (by decide)]
  · rw [filterTree?_eq, get?_of_plain isShaped (by decide) (by decide)]
  · rw [← get?_of_plain isShaped (by decide) (by decide)]
    exact Related.ids_ofProperty ((ofMetacard hit.metacard hit.actions).get? "queries")

end Record

/-! ## Parts that are missing -/

namespace Response

/-- What a response cannot be shaped without. -/
inductive Part where
  | status
  | count
  | hits
  | successful
  deriving DecidableEq

def Part.fault : Part → RequestFault
  | .status => .statusMissing
  | .count => .statusIncomplete "count"
  | .hits => .statusIncomplete "hits"
  | .successful => .statusIncomplete "successful"

/-- The failure tells of the part and has no other cause. -/
structure Part.IsReportedBy (part : Part) (failure : Failure) : Prop where
  cause : failure = .request part.fault
  kind : failure.kind = "backend_request_failed"
  message : failure.message = "Catalog backend request failed: " ++
    match part with
    | .status => "query response has no status"
    | .count => "query response status has no 'count'"
    | .hits => "query response status has no 'hits'"
    | .successful => "query response status has no 'successful'"

def has (response : Response) : Part → Bool
  | .status => response.status.isSome
  | .count => (response.status.bind ResponseStatus.count).isSome
  | .hits => (response.status.bind ResponseStatus.hits).isSome
  | .successful => (response.status.bind ResponseStatus.successful).isSome

def firstMissing? (response : Response) : Option Part :=
  [.status, .count, .hits, .successful].find? fun part => !response.has part

/-- The result has the records of the hits, and all else as it stands in the response. -/
structure IsShownBy (response : Response) (result : QueryResult) : Prop where
  records : List.Forall₂ Record.Shows response.hits result.records
  facets : result.facets = response.facets
  status : ∃ status, response.status = some status ∧
    status.count = some result.status.count ∧ status.hits = some result.status.hits ∧
    status.successful = some result.status.successful ∧
    result.status.elapsed = (response.duration.or status.elapsed).getD 0 ∧
    result.status.id = status.id.map fun id => id.text?.getD id.render

theorem Part.isReportedBy_iff {part : Part} {failure : Failure} :
    part.IsReportedBy failure ↔ failure = .request part.fault := by
  constructor
  · exact IsReportedBy.cause
  · rintro rfl
    refine ⟨rfl, rfl, ?_⟩
    cases part <;> rfl

theorem shape_cases (response : Response) :
    (∃ part, response.firstMissing? = some part ∧ response.shape = .error part.fault) ∨
      response.firstMissing? = none ∧
        ∃ result, response.shape = .ok result ∧ response.IsShownBy result := by
  obtain ⟨hits, status, duration, facets⟩ := response
  rcases status with - | ⟨count, found, successful, id, elapsed⟩
  · exact .inl ⟨.status, rfl, rfl⟩
  rcases count with - | count
  · exact .inl ⟨.count, rfl, rfl⟩
  rcases found with - | found
  · exact .inl ⟨.hits, rfl, rfl⟩
  rcases successful with - | successful
  · exact .inl ⟨.successful, rfl, rfl⟩
  refine .inr ⟨rfl, _, rfl, ?_, rfl, _, rfl, rfl, rfl, rfl, rfl, rfl⟩
  rw [List.forall₂_map_right_iff, List.forall₂_same]
  exact fun hit _ => Record.shows_ofMetacard hit

theorem firstMissing?_eq_none_iff {response : Response} :
    response.firstMissing? = none ↔ ∀ part, response.has part = true := by
  rw [firstMissing?, List.find?_eq_none]
  constructor
  · intro each part
    have isListed : part ∈ [Part.status, .count, .hits, .successful] := by cases part <;> decide
    simpa using each part isListed
  · intro all part _
    simp [all part]

end Response

/-- A response that can be read is shaped just if it has a status with a count, a number of hits and
whether it is successful; else the request is reported as failed for the first of these that is
missing. The result shows the response. -/
theorem QueryResult.shaped_from_response {sent : Json} {response : Response}
    (decoded : Response.decode sent = .ok response) :
    ((∃ result, ofJson sent = .ok result) ↔ ∀ part, response.has part = true) ∧
      (∀ failure, ofJson sent = .error failure ↔
        ∃ part, response.firstMissing? = some part ∧ part.IsReportedBy failure) ∧
      ∀ result, ofJson sent = .ok result → response.IsShownBy result := by
  rw [← Response.firstMissing?_eq_none_iff, ofJson, decoded]
  rcases response.shape_cases with ⟨part, missing, failed⟩ | ⟨complete, result, shaped, shown⟩
  · simp [failed, missing, Response.Part.isReportedBy_iff, Except.mapError, eq_comm]
  · simp [shaped, complete, Except.mapError, shown]

/-- Two hits, the first of which refers to others and has a text that is no filter, the second of
which has no properties. -/
def referringResponse : Json :=
  .object [("results", .array [.object [("metacard", .object [("properties", .object
      [("fil-terTree", .natural 1), ("filterTree", .text "no tree"), ("id", .text "m1"),
        ("queries", .array [.text "m2", .natural 3, .text "m4"])])])], .object []]),
    ("status", .object [("count", .natural 2), ("elapsed", .natural 7), ("hits", .natural 9),
      ("successful", .boolean false)])]

theorem QueryResult.shaped_from_response_referring :
    ∃ response result, Response.decode referringResponse = .ok response ∧
      ofJson referringResponse = .ok result ∧ response.IsShownBy result ∧
      result.records.map Record.id? = [some "m1", none] ∧
      result.records.map (fun record => record.related.ids) = [["m2", "m4"], []] ∧
      result.status = ⟨2, 7, 9, none, false⟩ :=
  have decoded : Response.decode referringResponse = .ok _ := by rfl
  have shaped : ofJson referringResponse = .ok _ := by rfl
  ⟨_, _, decoded, shaped, (shaped_from_response decoded).2.2 _ shaped, by decide, by decide,
    by decide⟩

end Metacard
