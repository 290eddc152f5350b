import Metacard.Proofs.Client.InMemory
import Metacard.Proofs.Schema.Renaming
/-!
# What is created is read back

A client gives the attributes of a new metacard under safe names. The catalog stores them under raw
ids, adds an id if they have none, and the client gives back what was stored under safe names.
-/

set_option autoImplicit false

namespace Metacard

namespace Store

/-- The id of a new metacard with these attributes, and the attributes with this id. -/
def identified (store : Store) (attributes : Table Json) : String × Table Json :=
  match (attributes.find? "id").bind Json.text? with
  | some id => (id, attributes)
  | none => (madeUpId store.nextId, attributes.insert "id" (.text (madeUpId store.nextId)))

theorem insert_eq (store : Store) (properties : Table Json) :
    store.insert properties = ((store.identified properties).1, { store with
      cards := store.cards.insert (store.identified properties).1 (store.identified properties).2
      nextId := if ((properties.find? "id").bind Json.text?).isSome then store.nextId
        else store.nextId + 1 }) := by
  rw [insert, identified]
  cases (properties.find? "id").bind Json.text? <;> rfl

theorem find?_id_identified (store : Store) (attributes : Table Json) :
    (store.identified attributes).2.find? "id" = some (.text (store.identified attributes).1) := by
  rw [identified]
  cases given : (attributes.find? "id").bind Json.text? with
  | none => exact Table.find?_insert_self _ _ _
  | some id =>
    obtain ⟨value, found, isText⟩ := Option.bind_eq_some_iff.1 given
    cases value <;> simp_all [Json.text?]

theorem identified_isSafe (store : Store) {attributes : Table Json} (safe : attributes.IsSafe) :
    (store.identified attributes).2.IsSafe := by
  rw [identified]
  cases (attributes.find? "id").bind Json.text? with
  | some id => exact safe
  | none =>
    intro name member
    rcases Table.mem_keys_insert.1 member with rfl | member
    · decide
    · exact safe name member

theorem create_one (store : Store) (card : Json) :
    Store.create (.object [("metacards", .array [card])]) store =
      (.ok (.object [("created_metacards", .array [.object
        [("attributes", .ofTable (store.identified (requestedProperties card)).2)]])]),
        (store.insert (requestedProperties card)).2) := by
  have cards : ((Json.object [("metacards", .array [card])]).member? "metacards").bind
      Json.items? = some [card] := rfl
  have stored : ((store.insert (requestedProperties card)).2.find?
      (store.insert (requestedProperties card)).1).getD .empty =
        (store.identified (requestedProperties card)).2 := by
    rw [insert_eq, find?, Table.find?_insert_self, Option.getD_some]
  simp only [Store.create, cards, insertAll, stored]

end Store

namespace Client

/-- The type of a new metacard is among its attributes, so that giving it apart changes nothing. -/
theorem requestedProperties_eq {names : NameMap} {known : List String} (knows : names.Knows known)
    (isKnown : "metacard-type" ∈ known) {attributes : Table Json} (safe : attributes.IsSafe) :
    Store.requestedProperties (.object [("attributes", .ofTable (names.renameToRaw attributes)),
      ("metacard-type", (attributes.find? (safeName "metacard-type")).getD .null)]) =
        names.renameToRaw attributes := by
  have found := knows.find?_renameToRaw safe (safeName_safeName "metacard-type")
  rw [knows.toRaw_safeName isKnown] at found
  have properties (type : Json) : ((Json.object [("attributes", .ofTable
      (names.renameToRaw attributes)), ("metacard-type", type)]).member? "attributes").bind
        Json.table? = some (names.renameToRaw attributes) := by
    simp [Json.member?, Json.table?_ofTable]
  have typeGiven (type : Json) : (Json.object [("attributes", .ofTable
      (names.renameToRaw attributes)), ("metacard-type", type)]).member? "metacard-type" =
        some type := rfl
  simp only [Store.requestedProperties, properties, typeGiven, Option.getD_some]
  cases given : attributes.find? (safeName "metacard-type") with
  | none => rfl
  | some type =>
    rw [given] at found
    simp only [Option.getD_some, Table.insert_of_find? found, ite_self]

theorem createdAttributes_one (attributes : Table Json) :
    createdAttributes (.object [("created_metacards", .array [.object
      [("attributes", .ofTable attributes)]])]) = .ok attributes := by
  have created : ((Json.object [("created_metacards", .array [.object
      [("attributes", .ofTable attributes)]])]).member? "created_metacards").bind Json.items? =
        some [.object [("attributes", .ofTable attributes)]] := rfl
  have first : ((Json.object [("attributes", .ofTable attributes)]).member? "attributes").bind
      Json.table? = some attributes := by
    simp [Json.member?, Json.table?_ofTable]
  simp only [createdAttributes, created, Option.bind_some, List.head?_cons, first]

theorem identified_renameToRaw (store : Store) {names : NameMap} {known : List String}
    (knows : names.Knows known) {attributes : Table Json} (safe : attributes.IsSafe) :
    store.identified (names.renameToRaw attributes) =
      ((store.identified attributes).1, names.renameToRaw (store.identified attributes).2) := by
  have idSafe : safeName "id" = "id" := by decide
  have idRaw : names.toRaw "id" = "id" := knows.toRaw_of_plain idSafe (by decide)
  have found := knows.find?_renameToRaw safe idSafe
  rw [idRaw] at found
  rw [Store.identified, Store.identified, found]
  cases (attributes.find? "id").bind Json.text? with
  | some id => rfl
  | none =>
    have inserted := knows.renameToRaw_insert safe idSafe (.text (Store.madeUpId store.nextId))
    rw [idRaw] at inserted
    simp only [inserted]

theorem create_createRequest (store : Store) {names : NameMap} {known : List String}
    (knows : names.Knows known) (isKnown : "metacard-type" ∈ known) {attributes : Table Json}
    (safe : attributes.IsSafe) :
    ∃ next : Store, Store.create (createRequest names attributes) store =
        (.ok (.object [("created_metacards", .array [.object
          [("attributes", .ofTable (names.renameToRaw (store.identified attributes).2))]])]),
          next) ∧
      next.cards = store.cards.insert (store.identified attributes).1
        (names.renameToRaw (store.identified attributes).2) := by
  refine ⟨(store.insert (names.renameToRaw attributes)).2, ?_, ?_⟩
  · rw [createRequest, Store.create_one, requestedProperties_eq knows isKnown safe,
      identified_renameToRaw store knows safe]
  · rw [Store.insert_eq, identified_renameToRaw store knows safe]

/-- Creating stores the attributes under raw ids and gives them back as they were given, with an
id. -/
theorem create_inMemory (metadata : MetadataSource Store) (config : Config) {client : Client Store}
    (reachable : client.registry.Reachable) {attributes : Table Json}
    (safe : attributes.IsSafe) :
    ∃ after, create (.inMemory metadata config) attributes client =
        (.ok (client.catalog.identified attributes).2, after) ∧
      after.catalog.cards = client.catalog.cards.insert (client.catalog.identified attributes).1
        (client.names.renameToRaw (client.catalog.identified attributes).2) := by
  have knows := knows_names reachable
  have isKnown : "metacard-type" ∈ client.registry.current.schema.attributes.map Attribute.id := by
    obtain ⟨others, ids⟩ := reachable.isBuilt.wellFormed.builtin
    rw [ids]
    exact List.mem_append_left _ (by decide)
  have returned := knows.renameToSafe_renameToRaw (client.catalog.identified_isSafe safe)
  obtain ⟨next, stored, cards⟩ := create_createRequest client.catalog knows isKnown safe
  simp only [create, onCatalog, Deployment.inMemory, Store.backend, stored, Except.bind,
    createdAttributes_one, Except.map, returned]
  exact ⟨_, rfl, cards⟩

/-- A metacard that is created is given back as it was given, with an id. It is stored under raw
ids, nothing else is changed, and as long as it is stored it is found as it was given back. -/
theorem create_round_trip (metadata : MetadataSource Store) (config : Config)
    {client : Client Store} (reachable : client.registry.Reachable) {attributes : Table Json}
    (safe : attributes.IsSafe) :
    ∃ id returned after card,
      client.catalog.identified attributes = (id, returned) ∧
      create (.inMemory metadata config) attributes client = (.ok returned, after) ∧
      after.catalog.find? id = some card ∧
      NameMap.renameToSafe card = returned ∧
      (∀ attr ∈ client.registry.current.schema.attributes,
        card.find? attr.id = returned.find? (safeName attr.id) ∧
          ∀ raw ∈ card.keys, safeName raw = safeName attr.id → raw = attr.id) ∧
      (∀ other, other ≠ id → after.catalog.find? other = client.catalog.find? other) ∧
      ∀ later : Client Store, later.catalog.find? id = some card →
        ∃ record, later.Finds record ∧ record.id? = some id ∧ record.attributes = returned := by
  have knows := knows_names reachable
  have isSafe := client.catalog.identified_isSafe safe
  have hasId := client.catalog.find?_id_identified attributes
  obtain ⟨after, created, cards⟩ := create_inMemory metadata config reachable safe
  cases identified : client.catalog.identified attributes with
  | mk id returned =>
    rw [identified] at isSafe hasId created cards
    have renamed := knows.renameToSafe_renameToRaw isSafe
    refine ⟨id, returned, after, client.names.renameToRaw returned, rfl, created, ?_, renamed, ?_,
      ?_, ?_⟩
    · rw [Store.find?, cards, Table.find?_insert_self]
    · intro attr member
      have raw : client.names.toRaw (safeName attr.id) = attr.id :=
        knows.toRaw_safeName (List.mem_map_of_mem member)
      have found := knows.find?_renameToRaw isSafe (safeName_safeName attr.id)
      rw [raw] at found
      refine ⟨found, fun key isKey same => ?_⟩
      rw [← knows.toRaw_safeName_of_mem isSafe isKey, same, raw]
    · intro other differs
      rw [Store.find?, cards, Table.find?_insert_of_ne _ _ differs, Store.find?]
    · intro later stored
      have attributesFound := (Store.attributes_recordOf _).trans renamed
      refine ⟨_, finds_recordOf stored, ?_, attributesFound⟩
      rw [Record.id?, Record.get?, attributesFound, hasId]
      rfl

def informed : Client Store :=
  (refreshSchema (.inMemory Store.metadata .standard) (.new
    (Store.empty.withGroup "contact" [.plain "point-of-contact" .string]))).2

theorem reachable_informed : informed.registry.Reachable :=
  reachable_refreshSchema _ Registry.reachable_new

def contactGiven : Table Json :=
  .ofList [("metacard_type", .text "contact"), ("point_of_contact", .text "front desk")]

theorem create_round_trip_contact :
    informed.registry.Reachable ∧ contactGiven.IsSafe ∧
      ∃ after card, create (.inMemory Store.metadata .standard) contactGiven
          informed = (.ok (contactGiven.insert "id" (.text "mem-1")), after) ∧
        after.catalog.find? "mem-1" = some card ∧
        card.find? "point-of-contact" = some (.text "front desk") ∧
        ∃ record, after.Finds record ∧ record.id? = some "mem-1" := by
  have safe : contactGiven.IsSafe := by decide
  obtain ⟨id, returned, after, card, identified, created, stored, -, known, -, found⟩ :=
    create_round_trip Store.metadata .standard reachable_informed safe
  have made : informed.catalog.identified contactGiven =
      ("mem-1", contactGiven.insert "id" (.text "mem-1")) := by rfl
  obtain ⟨rfl, rfl⟩ := Prod.mk.inj (made.symm.trans identified)
  obtain ⟨record, isFound, isNamed, -⟩ := found after stored
  exact ⟨reachable_informed, safe, after, card, created, stored,
    (known (.plain "point-of-contact" .string) (by decide)).1, record, isFound, isNamed⟩

end Client

end Metacard
