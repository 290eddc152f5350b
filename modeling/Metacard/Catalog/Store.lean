import Metacard.Catalog.Basic
/-!
# The catalog in memory

Metacards by id, for tests and demonstrations. Queries are noted and not evaluated: a query finds
every stored metacard, in ascending order of id and paged, unless a response was laid ready for it.

This is `InMemoryCatalog`, as a backend and as a source of metadata.
-/

set_option autoImplicit false

namespace Metacard

structure Store where
  /-- The raw properties of the metacards, by id. -/
  cards : Table (Table Json)
  /-- Every query so far, oldest first. -/
  received : List Request
  /-- Responses to the next queries. -/
  prepared : List Json
  /-- The number of the next id that is made up. -/
  nextId : Nat
  groups : AttributeGroups
  enumerations : Enumerations
  groupEnumerations : Table Enumerations
  failingGroups : List String
  sources : List SourceInfo
  localId : String

namespace Store

def empty : Store where
  cards := .empty
  received := []
  prepared := []
  nextId := 1
  groups := .empty
  enumerations := .empty
  groupEnumerations := .empty
  failingGroups := []
  sources := []
  localId := "ddf.distribution"

instance : Inhabited Store := ⟨empty⟩

def withGroup (store : Store) (group : String) (attributes : List Attribute) : Store :=
  let present := (store.groups.find? group).getD .empty
  { store with
    groups := store.groups.insert group
      (present.insertAll (attributes.map fun attr => (attr.id, attr))) }

def withEnumerations (store : Store) (enumerations : Enumerations) : Store :=
  { store with enumerations := store.enumerations.insertAll enumerations.entries }

def withGroupEnumerations (store : Store) (group : String) (enumerations : Enumerations) : Store :=
  let present := (store.groupEnumerations.find? group).getD .empty
  { store with
    groupEnumerations :=
      store.groupEnumerations.insert group (present.insertAll enumerations.entries) }

def withFailingGroup (store : Store) (group : String) : Store :=
  { store with failingGroups := group :: store.failingGroups }

def withSource (store : Store) (id : String) (details : Json) : Store :=
  { store with sources := store.sources ++ [⟨id, false, details.table?.getD .empty⟩] }

def withLocalId (store : Store) (id : String) : Store :=
  { store with localId := id }

def prepare (store : Store) (response : Json) : Store :=
  { store with prepared := store.prepared ++ [response] }

def madeUpId (number : Nat) : String :=
  "mem-" ++ toString number

/-- Stores a metacard under its id, which is made up if the properties have no text under `id`.
Gives the id. -/
def insert (store : Store) (properties : Table Json) : String × Store :=
  match (properties.find? "id").bind Json.text? with
  | some id => (id, { store with cards := store.cards.insert id properties })
  | none =>
      let id := madeUpId store.nextId
      (id, { store with
        cards := store.cards.insert id (properties.insert "id" (.text id))
        nextId := store.nextId + 1 })

def withMetacard (store : Store) (properties : Json) : Store :=
  match properties.table? with
  | some table => (store.insert table).2
  | none => store

def find? (store : Store) (id : String) : Option (Table Json) :=
  store.cards.find? id

def size (store : Store) : Nat :=
  store.cards.size

/-! ## Queries -/

def facetValues (property : String) (card : Table Json) : List Json :=
  match card.find? property with
  | some (.array items) => items
  | some .null => []
  | some value => [value]
  | none => []

/-- Counts one more occurrence of a value; values are told apart by their text. -/
def countValue (counts : Table (Json × Nat)) (value : Json) : Table (Json × Nat) :=
  let key := value.render
  let counted := (counts.find? key).getD (value, 0)
  counts.insert key (counted.1, counted.2 + 1)

/-- The values of an attribute with their counts, the most frequent first, and equally frequent ones
in ascending order of their text. -/
def facetBuckets (cards : List (Table Json)) (property : String) : List (Json × Nat) :=
  let counts := (cards.flatMap (facetValues property)).foldl countValue .empty
  counts.values.mergeSort fun left right => decide (right.2 ≤ left.2)

def page {α : Type} (settings : Settings) (listing : List α) : List α :=
  let skipped := ((settings.start.getD 1) - 1).toNat
  let rest := listing.drop skipped
  match settings.count with
  | some count => rest.take count.toNat
  | none => rest

def hitJson (card : Table Json) : Json :=
  .object [("actions", .array []), ("metacard", .object [("properties", .ofTable card)])]

def facetsJson (cards : List (Table Json)) (facets : List String) : Json :=
  .record (facets.map fun facet =>
    (facet, .array ((facetBuckets cards facet).map fun bucket =>
      .object [("count", .natural bucket.2), ("value", bucket.1)])))

def sorted (store : Store) : List (Table Json) :=
  (store.cards.entries.mergeSort fun left right => decide (left.1 ≤ right.1)).map Prod.snd

def respond (store : Store) (settings : Settings) (number : Nat) : Json :=
  let cards := store.sorted
  let found := page settings cards
  let status : Json := .object [("count", .natural found.length), ("elapsed", .natural 0),
    ("hits", .natural cards.length), ("id", .text ("memory-" ++ toString number)),
    ("successful", .boolean true)]
  .record ([("results", .array (found.map hitJson)), ("status", status),
      ("request_duration_millis", .natural 0)] ++
    if settings.facets.isEmpty then [] else [("facets", facetsJson cards settings.facets)])

/-- Notes a query and answers it, with a response laid ready if there is one. -/
def query (request : Request) : Call Store Json := fun store =>
  let noted := { store with received := store.received ++ [request] }
  match store.prepared with
  | response :: rest => (.ok response, { noted with prepared := rest })
  | [] => (.ok (noted.respond request.settings noted.received.length), noted)

/-! ## Changes -/

def requestedProperties (card : Json) : Table Json :=
  let attributes := ((card.member? "attributes").bind Json.table?).getD .empty
  match card.member? "metacard-type" with
  | some type => if type.isNull then attributes else attributes.insert "metacard-type" type
  | none => attributes

def insertAll : List Json → Store → List Json × Store
  | [], store => ([], store)
  | card :: rest, store =>
      let (id, next) := store.insert (requestedProperties card)
      let stored := (next.find? id).getD .empty
      let (others, last) := insertAll rest next
      (.object [("attributes", .ofTable stored)] :: others, last)

def create (request : Json) : Call Store Json := fun store =>
  match (request.member? "metacards").bind Json.items? with
  | some cards =>
      let (created, next) := insertAll cards store
      (.ok (.object [("created_metacards", .array created)]), next)
  | none => (.error (.request .requestWithoutCards), store)

def changed (card : Table Json) (changes : List AttributeUpdate) : Table Json :=
  card.insertAll (changes.map fun change => (change.property, change.value))

/-- Changes metacards one after the other, up to the first that is not stored. -/
def updateCards (changes : List AttributeUpdate) : List String → Call Store Unit
  | [], store => (.ok (), store)
  | id :: rest, store =>
      match store.cards.find? id with
      | some card =>
          updateCards changes rest
            { store with cards := store.cards.insert id (changed card changes) }
      | none => (.error (.request (.cardUnknown id)), store)

/-- Makes updates one after the other, up to the first that fails. -/
def update : List MetacardUpdate → Call Store Unit
  | [], store => (.ok (), store)
  | first :: rest, store =>
      match updateCards first.attributes first.ids store with
      | (.ok (), next) => update rest next
      | (.error failure, next) => (.error failure, next)

def delete (ids : List String) : Call Store Unit := fun store =>
  (.ok (), { store with cards := ids.foldl Table.erase store.cards })

def sourceIds : Call Store (List String) := fun store =>
  (.ok (store.sources.map SourceInfo.id), store)

def sourceInfo (ids : List String) : Call Store (List SourceInfo) := fun store =>
  (.ok (store.sources.filter fun source => ids.contains source.id), store)

def backend : Backend Store where
  query := query
  create := create
  update := update
  delete := delete
  sourceIds := sourceIds
  sourceInfo := sourceInfo

def enumerationsOf (group : String) : Call Store Enumerations := fun store =>
  if store.failingGroups.contains group then
    (.error (.request (.enumerationsUnavailable group)), store)
  else (.ok ((store.groupEnumerations.find? group).getD .empty), store)

def metadata : MetadataSource Store where
  attributeGroups store := (.ok store.groups, store)
  enumerationConfig store := (.ok store.enumerations, store)
  groupEnumerations := enumerationsOf
  localCatalogId store := (.ok store.localId, store)

end Store

end Metacard
