import Metacard.Client
import Metacard.Proofs.Catalog.Answer
import Metacard.Proofs.Schema.Run
import Metacard.Proofs.Search.Request
/-!
# Clients of the catalog in memory

A query of the catalog in memory succeeds once its request is assembled. If it asks for no page, it
gives a record for every stored metacard. The schema of a client is one that calls on its registry
have come to.
-/

set_option autoImplicit false

namespace Metacard

/-- Nothing of a listing is left out: neither what stands first nor what stands last. -/
structure Settings.Unpaged (settings : Settings) : Prop where
  start : ∀ start ∈ settings.start, start = 1
  count : settings.count = none

theorem Store.page_of_unpaged {α : Type} {settings : Settings} (unpaged : settings.Unpaged)
    (listing : List α) : page settings listing = listing := by
  have first : settings.start.getD 1 = 1 := by
    cases isStart : settings.start with
    | none => rfl
    | some start => exact unpaged.start start isStart
  simp [page, first, unpaged.count]

theorem Store.answered_query (request : Request) {store : Store}
    (unprepared : store.prepared = []) :
    (query request store).1.bind QueryResult.ofJson =
      .ok (store.answer request.settings (store.received.length + 1)) := by
  simp only [query, unprepared, Except.bind, ofJson_respond, List.length_append,
    List.length_singleton]
  rfl

def Config.standard : Config where
  baseUrl := "https://localhost:8993"
  apiRoot := "/search/catalog/internal"
  rpcPath := "/direct"
  timeoutMilliseconds := 30000
  acceptInvalidCerts := false
  defaultCount := none

def Deployment.inMemory (metadata : MetadataSource Store) (config : Config) : Deployment Store where
  backend := Store.backend
  metadata := metadata
  config := config

namespace Client

theorem reachable_refreshSchema {σ : Type} (deployment : Deployment σ) {client : Client σ}
    (reachable : client.registry.Reachable) :
    (refreshSchema deployment client).2.registry.Reachable := by
  have finished := reachable.finish
    (.refresh (Gathered.fetch deployment.metadata client.catalog).1)
  rw [Registry.finish_refresh] at finished
  exact finished

theorem knows_names {σ : Type} {client : Client σ} (reachable : client.registry.Reachable) :
    client.names.Knows (client.registry.current.schema.attributes.map Attribute.id) :=
  reachable.isBuilt.knows

section

variable {σ : Type}

theorem registry_finish {α : Type} (operation : String) (outcome : Except Failure α)
    (client : Client σ) : (finish operation outcome client).2.registry = client.registry := by
  cases outcome <;> rfl

theorem catalog_finish {α : Type} (operation : String) (outcome : Except Failure α)
    (client : Client σ) : (finish operation outcome client).2.catalog = client.catalog := by
  cases outcome <;> rfl

theorem registry_noteHits (client : Client σ) (outcome : Except Failure QueryResult) :
    (client.noteHits outcome).registry = client.registry := by
  cases outcome <;> rfl

theorem catalog_noteHits (client : Client σ) (outcome : Except Failure QueryResult) :
    (client.noteHits outcome).catalog = client.catalog := by
  cases outcome <;> rfl

theorem registry_run (deployment : Deployment σ) (operation : String) (criterion : Criterion)
    (settings : Settings) (client : Client σ) :
    (run deployment operation criterion settings client).2.registry = client.registry := by
  unfold run
  cases Request.assemble criterion (effectiveSettings deployment.config settings) with
  | error failure =>
    cases criterion.isTree <;> exact registry_finish _ _ _
  | ok request =>
    simp only [registry_finish, registry_noteHits]
    cases criterion.isTree <;> rfl

/-- A catalog is changed by the request that it gets, and by nothing if none was assembled. -/
theorem catalog_run (deployment : Deployment σ) (operation : String) (criterion : Criterion)
    (settings : Settings) (client : Client σ) :
    (run deployment operation criterion settings client).2.catalog =
      match Request.assemble criterion (effectiveSettings deployment.config settings) with
      | .ok request => (deployment.backend.query request client.catalog).2
      | .error _ => client.catalog := by
  unfold run
  cases Request.assemble criterion (effectiveSettings deployment.config settings) with
  | error failure =>
    cases criterion.isTree <;> exact catalog_finish _ _ _
  | ok request =>
    simp only [catalog_finish, catalog_noteHits]
    cases criterion.isTree <;> rfl

theorem outcome_run (deployment : Deployment σ) (operation : String) (criterion : Criterion)
    (settings : Settings) (client : Client σ) :
    (run deployment operation criterion settings client).1 =
      match Request.assemble criterion (effectiveSettings deployment.config settings) with
      | .ok request => (deployment.backend.query request client.catalog).1.bind QueryResult.ofJson
      | .error failure => .error failure := by
  unfold run
  cases Request.assemble criterion (effectiveSettings deployment.config settings) with
  | error failure => rfl
  | ok request => cases criterion.isTree <;> rfl

theorem catalog_create (deployment : Deployment σ) (attributes : Table Json) (client : Client σ) :
    (create deployment attributes client).2.catalog =
      (deployment.backend.create (createRequest client.names attributes) client.catalog).2 :=
  catalog_finish _ _ _

theorem catalog_save (deployment : Deployment σ) (now id : String) (attributes : Table Json)
    (client : Client σ) :
    (save deployment now id attributes client).2.catalog =
      (deployment.backend.update [saveUpdate client.names id attributes] client.catalog).2 :=
  catalog_finish _ _ _

theorem catalog_delete (deployment : Deployment σ) (id : String) (client : Client σ) :
    (delete deployment id client).2.catalog = (deployment.backend.delete [id] client.catalog).2 :=
  catalog_finish _ _ _

end

/-! ## Queries -/

theorem effectiveSettings_eq (config : Config) (settings : Settings) :
    effectiveSettings config settings =
      { settings with count := settings.count.or config.defaultCount } := by
  obtain ⟨_, _, _, _, _, count, _, _, _⟩ := settings
  cases count <;> rfl

variable {metadata : MetadataSource Store} {config : Config}

theorem run_inMemory {operation : String} {criterion : Criterion} {settings : Settings}
    {request : Request}
    (assembled : Request.assemble criterion (effectiveSettings config settings) = .ok request)
    {client : Client Store} (unprepared : client.catalog.prepared = []) :
    (run (.inMemory metadata config) operation criterion settings client).1 =
      .ok (client.catalog.answer request.settings (client.catalog.received.length + 1)) := by
  rw [outcome_run]
  simp only [Deployment.inMemory, assembled]
  exact Store.answered_query request unprepared

theorem query_inMemory {criterion : Criterion} {settings : Settings} {request : Request}
    (assembled : Request.assemble criterion (effectiveSettings config settings) = .ok request)
    {client : Client Store} (unprepared : client.catalog.prepared = []) :
    (query (.inMemory metadata config) criterion settings client).1 =
      .ok (client.catalog.answer request.settings (client.catalog.received.length + 1)) :=
  run_inMemory assembled unprepared

theorem exists_query_inMemory (metadata : MetadataSource Store) {criterion : Criterion}
    {settings : Settings} {request : Request}
    (assembled : Request.assemble criterion (effectiveSettings config settings) = .ok request)
    {client : Client Store} (unprepared : client.catalog.prepared = []) :
    ∃ number after, query (.inMemory metadata config) criterion settings client =
        (.ok (client.catalog.answer request.settings number), after) ∧
      after.catalog.cards = client.catalog.cards ∧ after.catalog.prepared = [] := by
  have catalog : (query (.inMemory metadata config) criterion settings client).2.catalog =
      (Store.query request client.catalog).2 := by
    rw [query, catalog_run]
    simp only [Deployment.inMemory, assembled]
    rfl
  refine ⟨_, _, Prod.ext (query_inMemory assembled unprepared) rfl, ?_, ?_⟩
  · rw [catalog, Store.query, unprepared]
  · rw [catalog, Store.query, unprepared]

theorem eq_answer_of_query {criterion : Criterion} {settings : Settings} {client : Client Store}
    {result : QueryResult}
    (found : (query (.inMemory metadata config) criterion settings client).1 = .ok result)
    (unprepared : client.catalog.prepared = []) :
    ∃ sent number, result = client.catalog.answer sent number := by
  cases assembled : Request.assemble criterion (effectiveSettings config settings) with
  | error failure =>
    simp only [query, run, Deployment.inMemory, assembled, finish] at found
    exact nomatch found
  | ok request =>
    rw [query_inMemory assembled unprepared] at found
    exact ⟨_, _, (Except.ok.inj found).symm⟩

/-- Every query without paging that has no response laid ready gives this record, whatever it asks
for. -/
def Finds (client : Client Store) (record : Record) : Prop :=
  client.catalog.prepared = [] → ∀ metadata config criterion settings request,
    Request.assemble criterion (effectiveSettings config settings) = .ok request →
    (effectiveSettings config settings).Unpaged →
      ∃ result, (query (.inMemory metadata config) criterion settings client).1 = .ok result ∧
        record ∈ result.records

theorem finds_recordOf {client : Client Store} {id : String} {card : Table Json}
    (stored : client.catalog.find? id = some card) : client.Finds (Store.recordOf card) := by
  intro unprepared metadata config criterion settings request assembled unpaged
  refine ⟨_, query_inMemory assembled unprepared, ?_⟩
  have settingsSent := (Request.assemble_eq_ok_iff.1 assembled).2.2
  rw [Store.answer, settingsSent, Store.page_of_unpaged unpaged]
  exact List.mem_map_of_mem (Table.mem_values_iff.2 ⟨id, stored⟩)

end Client

end Metacard
