import Metacard.Proofs.Schema.Names
import Metacard.Search.Result
/-!
# Properties under safe names

A record has the properties of its metacard under safe names. Of several properties with one safe
name the one with the greatest key is seen. Known attributes have different safe names, so only a
property that no attribute is known for can stand in the place of a known one.
-/

set_option autoImplicit false

namespace Metacard

namespace Record

def properties (record : Record) : Table Json :=
  ((record.metacard.member? "properties").bind Json.table?).getD .empty

def IsShaped (record : Record) : Prop :=
  record.attributes = record.properties.rekey safeName

theorem isShaped_ofMetacard (metacard : Json) (actions : List MetacardAction) :
    (ofMetacard metacard actions).IsShaped :=
  rfl

theorem get?_eq_of_greatest {record : Record} (isShaped : record.IsShaped) {name key : String}
    (greatest : Table.Greatest safeName record.properties name key) :
    record.get? name = record.properties.find? key := by
  rw [get?, isShaped, Table.find?_rekey_of_greatest greatest]

end Record

theorem Response.isShaped_of_shape {response : Response} {result : QueryResult}
    (shaped : response.shape = .ok result) : ∀ record ∈ result.records, record.IsShaped := by
  rw [shape] at shaped
  cases status : response.status with
  | none =>
    rw [status] at shaped
    exact nomatch shaped
  | some given =>
    rw [status] at shaped
    obtain ⟨complete, _, shaped⟩ := Outcome.bind_eq_ok shaped
    obtain rfl := Except.ok.inj shaped
    intro record member
    obtain ⟨hit, _, rfl⟩ := List.mem_map.1 member
    exact Record.isShaped_ofMetacard hit.metacard hit.actions

theorem QueryResult.isShaped_of_ofJson {sent : Json} {result : QueryResult}
    (shaped : ofJson sent = .ok result) : ∀ record ∈ result.records, record.IsShaped := by
  rw [ofJson] at shaped
  cases decoded : Response.decode sent with
  | error fault =>
    rw [decoded] at shaped
    exact nomatch shaped
  | ok response =>
    rw [decoded] at shaped
    cases outcome : response.shape with
    | error fault =>
      simp only [outcome] at shaped
      exact nomatch shaped
    | ok found =>
      simp only [outcome] at shaped
      obtain rfl := Except.ok.inj shaped
      exact Response.isShaped_of_shape outcome

/-- A key that gets the safe name of a known id is unknown and later than the id, or the id
itself. -/
theorem unknown_of_greatest {ids : List String} (apart : Apart ids) {properties : Table Json}
    {raw key : String} (known : raw ∈ ids) (present : raw ∈ properties.keys)
    (greatest : Table.Greatest safeName properties (safeName raw) key) :
    key = raw ∨ (raw < key ∧ key ∉ ids) := by
  by_cases same : key = raw
  · exact .inl same
  · have notAbove := greatest.greatest raw present rfl
    refine .inr ⟨?_, ?_⟩
    · apply Classical.byContradiction
      intro notBelow
      exact same (String.le_antisymm (String.not_lt.1 notBelow) notAbove)
    · intro keyKnown
      exact same (apart key keyKnown raw known greatest.renamed)

/-- Under the safe name of a known id a record has the value of the known property just if no other
value stands under the greatest key with this safe name, which may be one that is not known. -/
theorem known_kept_iff {ids : List String} {names : NameMap} (known : NameMap.ofIds ids = .ok names)
    {sent : Json} {result : QueryResult} (shaped : QueryResult.ofJson sent = .ok result) :
    ∀ record ∈ result.records, ∀ raw ∈ ids, ∀ value, record.properties.find? raw = some value →
      (record.get? (safeName raw) = some value ↔
        ∀ key, Table.Greatest safeName record.properties (safeName raw) key → key ∉ ids →
          record.properties.find? key = some value) := by
  intro record isRecord raw isKnown value found
  have isShaped := QueryResult.isShaped_of_ofJson shaped record isRecord
  have apart := (NameMap.knows_of_ofIds known).apart
  have present := Table.mem_keys_iff.2 ⟨value, found⟩
  constructor
  · intro kept key greatest _
    rw [← Record.get?_eq_of_greatest isShaped greatest, kept]
  · intro sameValue
    obtain ⟨key, greatest⟩ := Table.exists_greatest safeName present
    rw [Record.get?_eq_of_greatest isShaped greatest]
    -- The key that is seen is the known id itself, or one that is not known.
    rcases unknown_of_greatest apart isKnown present greatest with rfl | ⟨_, unknown⟩
    · exact found
    · exact sameValue key greatest unknown

/-- A response with one record that has a property under a known id and one under the safe name of
the id. -/
def crowdedResponse : Json :=
  .object [("results", .array [.object [("metacard", .object [("properties",
      .object [("a-b", .natural 1), ("a_b", .natural 2)])])]]),
    ("status", .object [("count", .natural 1), ("hits", .natural 1),
      ("successful", .boolean true)])]

def crowdedRecord : Record :=
  .ofMetacard (.object [("properties", .object [("a-b", .natural 1), ("a_b", .natural 2)])]) []

theorem known_kept_iff_crowded :
    QueryResult.ofJson crowdedResponse =
        .ok ⟨[crowdedRecord], ⟨1, 0, 1, none, true⟩, none⟩ ∧
      (crowdedRecord.get? "a_b" = some (.natural 1) ↔
        ∀ key, Table.Greatest safeName crowdedRecord.properties "a_b" key → key ∉ ["a-b"] →
          crowdedRecord.properties.find? key = some (.natural 1)) :=
  have known : NameMap.ofIds ["a-b"] = .ok ⟨.ofList [("a_b", "a-b")]⟩ := by rfl
  have shaped : QueryResult.ofJson crowdedResponse =
      .ok ⟨[crowdedRecord], ⟨1, 0, 1, none, true⟩, none⟩ := by rfl
  ⟨shaped, known_kept_iff known shaped crowdedRecord List.mem_cons_self "a-b" List.mem_cons_self
    (.natural 1) (by decide)⟩

/-- A property that is not known can take the place of a known one. -/
theorem known_not_kept :
    ¬ ∀ (ids : List String) (names : NameMap) (sent : Json) (result : QueryResult),
      NameMap.ofIds ids = .ok names → QueryResult.ofJson sent = .ok result →
      ∀ record ∈ result.records, ∀ raw ∈ ids, ∀ value, record.properties.find? raw = some value →
        record.get? (safeName raw) = some value := by
  intro kept
  have shaped : QueryResult.ofJson crowdedResponse =
      .ok ⟨[crowdedRecord], ⟨1, 0, 1, none, true⟩, none⟩ := by rfl
  have claimed := kept ["a-b"] _ crowdedResponse _ rfl shaped crowdedRecord List.mem_cons_self
    "a-b" List.mem_cons_self (.natural 1) (by decide)
  exact absurd claimed (by decide)

end Metacard
