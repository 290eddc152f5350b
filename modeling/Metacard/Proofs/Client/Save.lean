import Metacard.Proofs.Client.InMemory
import Metacard.Proofs.Schema.Renaming
/-!
# What is saved is found again

A client saves attributes under safe names; the catalog puts them under raw ids in place of what the
metacard had there. Values are sent as lists, so that a list with one element is not told apart from
its element, and a property of the metacard that no attribute is known for can stand in the place of
a saved one.
-/

set_option autoImplicit false

namespace Metacard

/-- A value as it is found again after it was saved: in place of a list with one element the
element. -/
def Json.unwrapped : Json → Json
  | .array [single] => single
  | value => value

namespace AttributeUpdate

theorem property_ofValue (property : String) (value : Json) :
    (ofValue property value).property = property := by
  cases value <;> rfl

theorem value_ofValue (property : String) (value : Json) :
    (ofValue property value).value = value.unwrapped := by
  cases value with
  | array items =>
    cases items with
    | nil => rfl
    | cons first rest => cases rest <;> rfl
  | _ => rfl

end AttributeUpdate

namespace Store

theorem update_one {store : Store} {id : String} {card : Table Json}
    (stored : store.find? id = some card) (changes : List AttributeUpdate) :
    update [⟨[id], changes⟩] store =
      (.ok (), { store with cards := store.cards.insert id (changed card changes) }) := by
  rw [find?] at stored
  simp only [update, updateCards, stored]

theorem update_missing {store : Store} {id : String} (missing : store.find? id = none)
    (changes : List AttributeUpdate) :
    update [⟨[id], changes⟩] store = (.error (.request (.cardUnknown id)), store) := by
  rw [find?] at missing
  simp only [update, updateCards, missing]

end Store

namespace Client

def savedCard (names : NameMap) (card attributes : Table Json) : Table Json :=
  Store.changed card (attributes.entries.map fun entry => .ofValue (names.toRaw entry.1) entry.2)

theorem find?_savedCard (names : NameMap) (card attributes : Table Json) (raw : String) :
    (savedCard names card attributes).find? raw =
      ((names.renameToRaw (attributes.map Json.unwrapped)).find? raw).or (card.find? raw) := by
  have changes : (attributes.entries.map fun entry =>
        AttributeUpdate.ofValue (names.toRaw entry.1) entry.2).map
          (fun change => (change.property, change.value)) =
      (attributes.map Json.unwrapped).entries.map fun entry => (names.toRaw entry.1, entry.2) := by
    rw [Table.map, List.map_map, List.map_map]
    apply List.map_congr_left
    intro entry _
    exact Prod.ext (AttributeUpdate.property_ofValue _ _) (AttributeUpdate.value_ofValue _ _)
  rw [savedCard, Store.changed, changes, Table.find?_insertAll, ← Table.find?_ofList]
  rfl

theorem mem_keys_savedCard {names : NameMap} {card attributes : Table Json} {raw : String}
    (member : raw ∈ (savedCard names card attributes).keys) :
    raw ∈ (names.renameToRaw (attributes.map Json.unwrapped)).keys ∨ raw ∈ card.keys := by
  obtain ⟨value, found⟩ := Table.mem_keys_iff.1 member
  rw [find?_savedCard, Option.or_eq_some_iff] at found
  rcases found with found | ⟨-, found⟩
  · exact .inl (Table.mem_keys_iff.2 ⟨value, found⟩)
  · exact .inr (Table.mem_keys_iff.2 ⟨value, found⟩)

/-- A saved value is found under its safe name unless a property that the metacard had comes after
the raw id and has the same safe name. -/
theorem get?_savedCard {names : NameMap} {known : List String} (knows : names.Knows known)
    {card attributes : Table Json} (safe : attributes.IsSafe) {name : String} {value : Json}
    (given : attributes.find? name = some value)
    (uncovered : ∀ raw ∈ card.keys, safeName raw = name → raw ≤ names.toRaw name) :
    (Store.recordOf (savedCard names card attributes)).get? name = some value.unwrapped := by
  have unwrappedSafe : (attributes.map Json.unwrapped).IsSafe := by
    rwa [Table.IsSafe, Table.keys_map]
  have nameSafe : safeName name = name := safe name (Table.mem_keys_iff.2 ⟨value, given⟩)
  have sent : (names.renameToRaw (attributes.map Json.unwrapped)).find? (names.toRaw name) =
      some value.unwrapped := by
    rw [knows.find?_renameToRaw unwrappedSafe nameSafe, Table.find?_map, given, Option.map_some]
  have stored : (savedCard names card attributes).find? (names.toRaw name) =
      some value.unwrapped := by
    rw [find?_savedCard, sent, Option.some_or]
  have greatest : Table.Greatest safeName (savedCard names card attributes) name
      (names.toRaw name) := by
    refine ⟨Table.mem_keys_iff.2 ⟨_, stored⟩, knows.safeName_toRaw nameSafe, ?_⟩
    intro raw member renamed
    rcases mem_keys_savedCard member with isSent | wasThere
    · have same := knows.toRaw_safeName_of_mem unwrappedSafe isSent
      rw [renamed] at same
      exact same ▸ String.le_refl raw
    · exact uncovered raw wasThere renamed
  rw [Record.get?, Store.attributes_recordOf, NameMap.renameToSafe, ← Table.rekey,
    Table.find?_rekey_of_greatest greatest, stored]

theorem find?_id_savedAttributes (id now : String) (attributes : Table Json) :
    (savedAttributes id now attributes).find? "id" =
      some ((attributes.find? "id").getD (.text id)) := by
  have differs : "id" ≠ safeName "metacard.modified" := by decide
  rw [savedAttributes, Table.find?_insertAll, lookup_reverse attributes.ascending,
    Table.find?_insert_of_ne _ _ differs, Table.find?_insert_self, ← Table.find?]
  cases attributes.find? "id" <;> rfl

theorem save_inMemory (metadata : MetadataSource Store) (config : Config) (now : String)
    {client : Client Store} {id : String} {card : Table Json}
    (stored : client.catalog.find? id = some card) (attributes : Table Json) :
    ∃ after, save (.inMemory metadata config) now id attributes client =
        (.ok (savedAttributes id now attributes), after) ∧
      after.catalog.cards =
        client.catalog.cards.insert id (savedCard client.names card attributes) := by
  have updated := Store.update_one stored
    (attributes.entries.map fun entry => .ofValue (client.names.toRaw entry.1) entry.2)
  simp only [save, saveUpdate, onCatalog, Deployment.inMemory, Store.backend, updated]
  exact ⟨_, rfl, rfl⟩

/-- Attributes saved on a stored metacard are given back with its id, unless they have another id
themselves. As long as the metacard is stored so, they are found with every list of one element
replaced by the element, unless the metacard had a property that comes after the raw id of a known
attribute and has its safe name. -/
theorem saved_found_again (metadata : MetadataSource Store) (config : Config) (now : String)
    {client : Client Store} (reachable : client.registry.Reachable) {attributes : Table Json}
    (safe : attributes.IsSafe) {id : String} {card : Table Json}
    (stored : client.catalog.find? id = some card) :
    ∃ saved after changed,
      save (.inMemory metadata config) now id attributes client = (.ok saved, after) ∧
      saved.find? "id" = some ((attributes.find? "id").getD (.text id)) ∧
      after.catalog.find? id = some changed ∧
      ∀ later : Client Store, later.catalog.find? id = some changed →
        ∃ record, later.Finds record ∧
          record.metacard = .object [("properties", .ofTable changed)] ∧
          ∀ name value, attributes.find? name = some value →
            (∀ attr ∈ client.registry.current.schema.attributes, safeName attr.id = name →
              ∀ raw ∈ card.keys, safeName raw = name → raw ≤ attr.id) →
            record.get? name = some value.unwrapped := by
  have knows := knows_names reachable
  obtain ⟨after, isSaved, cards⟩ := save_inMemory metadata config now stored attributes
  refine ⟨_, after, savedCard client.names card attributes, isSaved,
    find?_id_savedAttributes id now attributes, ?_, ?_⟩
  · rw [Store.find?, cards, Table.find?_insert_self]
  · intro later isStored
    refine ⟨_, finds_recordOf isStored, rfl, ?_⟩
    intro name value given uncovered
    apply get?_savedCard knows safe given
    intro raw wasThere renamed
    cases found : client.names.raws.find? name with
    | none =>
      rw [NameMap.toRaw, found, ← renamed]
      exact le_safeName raw
    | some known =>
      obtain ⟨isKnown, knownSafe⟩ := knows.only name known found
      obtain ⟨attr, isAttribute, rfl⟩ := List.mem_map.1 isKnown
      rw [NameMap.toRaw, found]
      exact uncovered attr isAttribute knownSafe raw wasThere renamed

def crowded : Client Store :=
  .new (Store.empty.insert (.ofList [("id", .text "m1"),
    ("metacard_tags", .array [.text "old"])])).2

theorem saved_found_again_type :
    let given : Table Json := .ofList [("metacard_type", .text "image"),
      ("title", .array [.text "Harbour"])]
    crowded.registry.Reachable ∧ given.IsSafe ∧ (crowded.catalog.find? "m1").isSome = true ∧
      ∃ saved after, save (.inMemory Store.metadata .standard) "" "m1" given
          crowded = (.ok saved, after) ∧
        saved.find? "id" = some (.text "m1") ∧
        ∃ record, after.Finds record ∧ record.get? "metacard_type" = some (.text "image") ∧
          record.get? "title" = some (.text "Harbour") := by
  intro given
  have safe : given.IsSafe := by decide
  have isStored : crowded.catalog.find? "m1" =
      some (.ofList [("id", .text "m1"), ("metacard_tags", .array [.text "old"])]) := by rfl
  obtain ⟨saved, after, changed, isSaved, hasId, stored, found⟩ :=
    saved_found_again Store.metadata .standard "" Registry.reachable_new safe
      isStored
  obtain ⟨record, isFound, -, again⟩ := found after stored
  refine ⟨Registry.reachable_new, safe, rfl, saved, after, isSaved, hasId, record, isFound,
    again "metacard_type" (.text "image") rfl ?_,
    again "title" (.array [.text "Harbour"]) rfl ?_⟩ <;> decide

/-- One save of which nothing comes back as it was given: the id that is given back is not the one
that was saved, a list with one element is found as the element, and known tags are covered. -/
theorem saved_not_found_again :
    let deployment : Deployment Store := .inMemory Store.metadata .standard
    let given : Table Json := .ofList [("id", .text "m2"),
      ("metacard_tags", .array [.text "new", .text "newer"]), ("title", .array [.text "Harbour"])]
    crowded.registry.Reachable ∧ given.IsSafe ∧ (crowded.catalog.find? "m1").isSome = true ∧
      ∃ saved after result, save deployment "" "m1" given crowded = (.ok saved, after) ∧
        saved.find? "id" = some (.text "m2") ∧
        after.catalog.prepared = [] ∧
        (query deployment (.tree .matchAll) .unset after).1 = .ok result ∧
        result.records.map (fun record => (record.get? "title", record.get? "metacard_tags")) =
          [(some (.text "Harbour"), some (.array [.text "old"]))] := by
  intro deployment given
  have assembled : Request.assemble (.tree .matchAll)
      (effectiveSettings .standard .unset) =
        .ok ⟨"(anyText ILIKE '%')", .unset⟩ := by rfl
  exact ⟨Registry.reachable_new, by decide, rfl, _, _, _, rfl, rfl, rfl,
    query_inMemory assembled rfl, by decide⟩

end Client

end Metacard
