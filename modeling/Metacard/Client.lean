import Metacard.Config
import Metacard.Schema.Registry
import Metacard.Search.Result
/-!
# The client of a catalog

Callers query and change a catalog through a client, under the safe names of its schema. The client
fills in the default page size, sends requests, shapes responses, renames properties on their way in
and out, keeps the schema and measures every operation.

This is `CatalogClient`, with its queries, its changes and its sources.
-/

set_option autoImplicit false

namespace Metacard

structure Deployment (σ : Type) where
  backend : Backend σ
  metadata : MetadataSource σ
  config : Config

structure Client (σ : Type) where
  registry : Registry
  meter : Meter
  catalog : σ

namespace Client

variable {σ : Type}

def new (catalog : σ) : Client σ where
  registry := .new
  meter := .empty
  catalog := catalog

def names (client : Client σ) : NameMap :=
  client.registry.current.schema.names

def report (client : Client σ) : List (String × Measure) :=
  Meter.report ⟨client.meter.observations ++ client.registry.meter.observations⟩

def note (client : Client σ) (observation : Observation) : Client σ :=
  { client with meter := client.meter.note observation }

def noteOutcome {α : Type} (client : Client σ) (operation : String) (outcome : Except Failure α) :
    Client σ :=
  match outcome with
  | .ok _ => client.note (.operation operation "success")
  | .error failure =>
      (client.note (.operation operation "error")).note (.failure operation failure.kind)

def finish {α : Type} (operation : String) (outcome : Except Failure α) : Call (Client σ) α :=
  fun client => (outcome, (client.noteOutcome operation outcome).note (.latency operation none))

def onCatalog {α : Type} (call : Call σ α) : Call (Client σ) α := fun client =>
  let (outcome, catalog) := call client.catalog
  (outcome, { client with catalog := catalog })

/-! ## Queries -/

def effectiveSettings (config : Config) (settings : Settings) : Settings :=
  if settings.count.isNone then { settings with count := config.defaultCount } else settings

def noteHits (client : Client σ) (outcome : Except Failure QueryResult) : Client σ :=
  match outcome with
  | .ok result => client.note (.hits result.status.hits)
  | .error _ => client

/-- The path of every query: fill in, assemble, send, shape. -/
def run (deployment : Deployment σ) (operation : String) (criterion : Criterion)
    (settings : Settings) : Call (Client σ) QueryResult := fun client =>
  let assembled := Request.assemble criterion (effectiveSettings deployment.config settings)
  let counted :=
    if criterion.isTree then client.note (.compilation assembled.isOk) else client
  match assembled with
  | .error failure => finish operation (.error failure) counted
  | .ok request =>
      let (response, sent) := onCatalog (deployment.backend.query request) counted
      let outcome := response.bind QueryResult.ofJson
      finish operation outcome (sent.noteHits outcome)

def query (deployment : Deployment σ) (criterion : Criterion) (settings : Settings) :
    Call (Client σ) QueryResult :=
  run deployment "query" criterion settings

def metacardById (deployment : Deployment σ) (id : String) (settings : Settings) :
    Call (Client σ) QueryResult :=
  run deployment "metacard_by_id" (.tree (.and (.equal "id" (.text id)) .anyTag)) settings

def metacardsByTag (deployment : Deployment σ) (tag : String) (settings : Settings) :
    Call (Client σ) QueryResult :=
  run deployment "metacards_by_tag" (.tree (.equal "metacard-tags" (.text tag))) settings

def facet (deployment : Deployment σ) (property : String) :
    Call (Client σ) (List FacetBucket) := fun client =>
  let settings := (Settings.unset.withCount 0).withFacet property
  let (outcome, next) := run deployment "facet" (.tree .matchAll) settings client
  (outcome.map fun result => (result.facet? property).getD [], next)

/-- The records that a record refers to; without any no query is run. -/
def related (deployment : Deployment σ) (related : Related) :
    Call (Client σ) (List Record) := fun client =>
  match related.filter? with
  | none => (.ok [], client)
  | some filter =>
      let settings := Settings.unset.withCount related.ids.length
      let (outcome, next) := run deployment "related" (.tree filter) settings client
      (outcome.map QueryResult.records, next)

/-! ## Changes -/

def createRequest (names : NameMap) (attributes : Table Json) : Json :=
  let type := (attributes.find? (safeName "metacard-type")).getD .null
  .object [("metacards", .array [.object [
    ("attributes", .ofTable (names.renameToRaw attributes)), ("metacard-type", type)]])]

def createdAttributes (reply : Json) : Except Failure (Table Json) :=
  let created := (reply.member? "created_metacards").bind Json.items?
  match created.bind fun cards => cards.head?.bind fun card =>
      (card.member? "attributes").bind Json.table? with
  | some attributes => .ok attributes
  | none => .error (.request .replyWithoutCard)

def create (deployment : Deployment σ) (attributes : Table Json) :
    Call (Client σ) (Table Json) := fun client =>
  let (reply, sent) :=
    onCatalog (deployment.backend.create (createRequest client.names attributes)) client
  finish "create" ((reply.bind createdAttributes).map NameMap.renameToSafe) sent

def saveUpdate (names : NameMap) (id : String) (attributes : Table Json) : MetacardUpdate where
  ids := [id]
  attributes := attributes.entries.map fun entry => .ofValue (names.toRaw entry.1) entry.2

/-- The attributes that were saved, with the id and the time unless they are among them. -/
def savedAttributes (id now : String) (attributes : Table Json) : Table Json :=
  ((Table.empty.insert "id" (.text id)).insert (safeName "metacard.modified") (.text now)).insertAll
    attributes.entries

def save (deployment : Deployment σ) (now id : String) (attributes : Table Json) :
    Call (Client σ) (Table Json) := fun client =>
  let (outcome, sent) :=
    onCatalog (deployment.backend.update [saveUpdate client.names id attributes]) client
  finish "save" (outcome.map fun _ => savedAttributes id now attributes) sent

def delete (deployment : Deployment σ) (id : String) : Call (Client σ) String := fun client =>
  let (outcome, sent) := onCatalog (deployment.backend.delete [id]) client
  finish "delete" (outcome.map fun _ => id) sent

/-- The sources of the catalog, asked for one after the other; the one with the id of the catalog
is marked. -/
def listSources (deployment : Deployment σ) : Call σ (List SourceInfo) := fun state =>
  match deployment.backend.sourceIds state with
  | (.error failure, next) => (.error failure, next)
  | (.ok ids, next) =>
      let (sources, next) := deployment.backend.sourceInfo ids next
      let (localId, next) := deployment.metadata.localCatalogId next
      let outcome := do
        let sources ← sources
        let localId ← localId
        .ok (sources.map fun source => { source with isLocal := source.id = localId })
      (outcome, next)

def sources (deployment : Deployment σ) : Call (Client σ) (List SourceInfo) := fun client =>
  let (outcome, sent) := onCatalog (listSources deployment) client
  finish "sources" outcome sent

def refreshSchema (deployment : Deployment σ) : Call (Client σ) RefreshReport := fun client =>
  let (report, registry, catalog) :=
    Registry.refresh deployment.metadata (client.registry, client.catalog)
  (report, { client with registry := registry, catalog := catalog })

end Client

end Metacard
