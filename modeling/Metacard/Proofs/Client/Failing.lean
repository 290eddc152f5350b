import Metacard.Catalog.Rehearsal
import Metacard.Proofs.Client.Create
import Metacard.Proofs.Client.Save
import Metacard.Proofs.Client.Sending
/-!
# Calls that fail

A client of the catalog in memory asks the catalog for its metadata too, or another source. Whatever
a caller asks of such a client, and whatever responses are laid ready: if the caller gets an error,
the metacards and the schema are what they were.
-/

set_option autoImplicit false

namespace Metacard

section

variable {σ τ ρ ν α : Type}

/-- The call leaves this part of the state as it is, also if it fails. -/
def Call.Keeps (view : σ → ν) (call : Call σ α) : Prop :=
  ∀ state, view (call state).2 = view state

def Call.onFirst (call : Call σ α) : Call (σ × τ) α := fun state =>
  let (outcome, first) := call state.1
  (outcome, first, state.2)

def Call.onSecond (call : Call τ α) : Call (σ × τ) α := fun state =>
  let (outcome, second) := call state.2
  (outcome, state.1, second)

def Backend.onFirst (backend : Backend σ) : Backend (σ × τ) where
  query request := Call.onFirst (backend.query request)
  create request := Call.onFirst (backend.create request)
  update updates := Call.onFirst (backend.update updates)
  delete ids := Call.onFirst (backend.delete ids)
  sourceIds := Call.onFirst backend.sourceIds
  sourceInfo ids := Call.onFirst (backend.sourceInfo ids)

namespace MetadataSource

def lifted (lift : {α : Type} → Call σ α → Call ρ α) (source : MetadataSource σ) :
    MetadataSource ρ where
  attributeGroups := lift source.attributeGroups
  enumerationConfig := lift source.enumerationConfig
  groupEnumerations group := lift (source.groupEnumerations group)
  localCatalogId := lift source.localCatalogId

/-- No call on the source changes this part of the state. -/
structure Keeps (view : σ → ν) (source : MetadataSource σ) : Prop where
  attributeGroups : Call.Keeps view source.attributeGroups
  enumerationConfig : Call.Keeps view source.enumerationConfig
  groupEnumerations : ∀ group, Call.Keeps view (source.groupEnumerations group)
  localCatalogId : Call.Keeps view source.localCatalogId

theorem keeps_store : Store.metadata.Keeps id where
  attributeGroups := fun _ => rfl
  enumerationConfig := fun _ => rfl
  groupEnumerations := by
    intro group store
    simp only [Store.metadata, Store.enumerationsOf]
    split <;> rfl
  localCatalogId := fun _ => rfl

theorem Keeps.onFirst {source : MetadataSource σ} (keeps : source.Keeps id) :
    Keeps (Prod.fst : σ × τ → σ) (source.lifted Call.onFirst) where
  attributeGroups := fun state => keeps.attributeGroups state.1
  enumerationConfig := fun state => keeps.enumerationConfig state.1
  groupEnumerations := fun group state => keeps.groupEnumerations group state.1
  localCatalogId := fun state => keeps.localCatalogId state.1

theorem keeps_onSecond (source : MetadataSource τ) :
    Keeps (Prod.fst : σ × τ → σ) (source.lifted Call.onSecond) where
  attributeGroups := fun _ => rfl
  enumerationConfig := fun _ => rfl
  groupEnumerations := fun _ _ => rfl
  localCatalogId := fun _ => rfl

variable {source : MetadataSource σ} {view : σ → ν}

theorem Keeps.fetchGroups (keeps : source.Keeps view) (groups : List String) :
    ∀ state, view (Gathered.fetchGroups source groups state).2 = view state := by
  induction groups with
  | nil =>
    intro state
    rfl
  | cons group rest inductionHypothesis =>
    intro state
    exact (inductionHypothesis _).trans (keeps.groupEnumerations group state)

theorem Keeps.fetch (keeps : source.Keeps view) : Call.Keeps view (Gathered.fetch source) := by
  intro state
  have afterGroups := keeps.attributeGroups state
  rw [Gathered.fetch]
  cases reported : source.attributeGroups state with
  | mk outcome next =>
    rw [reported] at afterGroups
    cases outcome with
    | error failure => exact afterGroups
    | ok groups =>
      calc view (Gathered.fetchGroups source groups.keys (source.enumerationConfig next).2).2
        _ = view (source.enumerationConfig next).2 := keeps.fetchGroups groups.keys _
        _ = view next := keeps.enumerationConfig next
        _ = view state := afterGroups

end MetadataSource

end

/-! ## What is asked of a client -/

variable {σ τ : Type}

/-- Where a client of the catalog in memory has its metadata from. -/
inductive Origin (τ : Type) where
  | catalog
  | elsewhere (source : MetadataSource τ)

def Origin.source : Origin τ → MetadataSource (Store × τ)
  | .catalog => Store.metadata.lifted Call.onFirst
  | .elsewhere source => source.lifted Call.onSecond

theorem Origin.keeps_source (origin : Origin τ) : origin.source.Keeps Prod.fst := by
  cases origin with
  | catalog => exact MetadataSource.keeps_store.onFirst
  | elsewhere source => exact source.keeps_onSecond

/-- A client of the catalog in memory beside another source of metadata, which it may have its
metadata from. -/
def Deployment.beside (origin : Origin τ) (config : Config) : Deployment (Store × τ) where
  backend := Store.backend.onFirst
  metadata := origin.source
  config := config

/-- All that a caller can ask of a client. -/
inductive Errand where
  | look (lookup : Lookup)
  | create (attributes : Table Json)
  | save (now id : String) (attributes : Table Json)
  | delete (id : String)
  | sources
  | refresh

inductive Answer where
  | found (found : Found)
  | attributes (attributes : Table Json)
  | id (id : String)
  | sources (sources : List SourceInfo)
  | report (report : RefreshReport)

def Errand.perform (deployment : Deployment σ) (errand : Errand) : Call (Client σ) Answer :=
  fun client =>
    match errand with
    | .look lookup =>
        let (outcome, next) := lookup.perform deployment client
        (outcome.map .found, next)
    | .create attributes =>
        let (outcome, next) := Client.create deployment attributes client
        (outcome.map .attributes, next)
    | .save now id attributes =>
        let (outcome, next) := Client.save deployment now id attributes client
        (outcome.map .attributes, next)
    | .delete id =>
        let (outcome, next) := Client.delete deployment id client
        (outcome.map .id, next)
    | .sources =>
        let (outcome, next) := Client.sources deployment client
        (outcome.map .sources, next)
    | .refresh =>
        let (outcome, next) := Client.refreshSchema deployment client
        (outcome.map .report, next)

section

variable {origin : Origin τ} {config : Config} {client : Client (Store × τ)} {failure : Failure}

theorem Store.query_failed {request : Request} {store : Store}
    (failed : (query request store).1.bind QueryResult.ofJson = .error failure) :
    ∃ response rest, store.prepared = response :: rest ∧
      QueryResult.ofJson response = .error failure ∧
      (query request store).2 =
        { store with received := store.received ++ [request], prepared := rest } := by
  cases prepared : store.prepared with
  | nil =>
    rw [answered_query request prepared] at failed
    exact nomatch failed
  | cons response rest =>
    simp only [query, prepared] at failed ⊢
    exact ⟨response, rest, rfl, failed, rfl⟩

namespace Lookup

/-- A lookup that fails was not sent, or took a response that was laid ready and cannot be read. -/
theorem failed_cases {lookup : Lookup}
    (failed : (lookup.perform (.beside origin config) client).1 = .error failure) :
    (lookup.request? config = some (.error failure) ∧
        (lookup.perform (.beside origin config) client).2.catalog = client.catalog) ∨
      ∃ request response rest, lookup.request? config = some (.ok request) ∧
        client.catalog.1.prepared = response :: rest ∧
        QueryResult.ofJson response = .error failure ∧
        (lookup.perform (.beside origin config) client).2.catalog = ({ client.catalog.1 with
          received := client.catalog.1.received ++ [request]
          prepared := rest }, client.catalog.2) := by
  have outcome := (outcome_perform _ lookup client).symm.trans failed
  have catalog := catalog_perform (.beside origin config) lookup client
  have sameConfig : (Deployment.beside origin config).config = config := rfl
  rw [sameConfig] at outcome catalog
  cases isRequest : lookup.request? config with
  | none =>
    rw [isRequest] at outcome
    exact nomatch outcome
  | some assembled =>
    simp only [isRequest] at outcome catalog
    cases assembled with
    | error refusal =>
      obtain rfl : refusal = failure := Except.error.inj outcome
      exact .inl ⟨rfl, catalog⟩
    | ok request =>
      obtain ⟨response, rest, prepared, unread, sent⟩ :=
        Store.query_failed (Outcome.map_eq_error outcome)
      exact .inr ⟨request, response, rest, rfl, prepared, unread,
        catalog.trans (congrArg (·, client.catalog.2) sent)⟩

end Lookup

namespace Client

theorem create_succeeds (origin : Origin τ) (config : Config) (attributes : Table Json)
    (client : Client (Store × τ)) :
    ∃ created, (create (.beside origin config) attributes client).1 = .ok created := by
  have stored : Store.create (createRequest client.names attributes) client.catalog.1 = _ :=
    Store.create_one client.catalog.1 _
  simp only [create, onCatalog, Deployment.beside, Backend.onFirst, Call.onFirst, Store.backend,
    stored, Except.bind, createdAttributes_one]
  exact ⟨_, rfl⟩

theorem save_failed {now id : String} {attributes : Table Json}
    (failed : (save (.beside origin config) now id attributes client).1 = .error failure) :
    (save (.beside origin config) now id attributes client).2.catalog = client.catalog := by
  cases stored : client.catalog.1.find? id with
  | none =>
    have unchanged := Store.update_missing stored (saveUpdate client.names id attributes).attributes
    rw [catalog_save]
    exact congrArg (fun updated => (updated.2, client.catalog.2)) unchanged
  | some card =>
    have updated := Store.update_one stored (saveUpdate client.names id attributes).attributes
    have outcome : (Store.update [saveUpdate client.names id attributes] client.catalog.1).1 =
        .error failure := Outcome.map_eq_error failed
    exact nomatch (congrArg Prod.fst updated).symm.trans outcome

theorem catalog_sources (origin : Origin τ) (config : Config) (client : Client (Store × τ)) :
    (sources (.beside origin config) client).2.catalog.1 = client.catalog.1 := by
  rw [sources, catalog_finish]
  exact origin.keeps_source.localCatalogId client.catalog

theorem refreshSchema_failed {ν : Type} {deployment : Deployment σ} {view : σ → ν}
    (keeps : deployment.metadata.Keeps view) {client : Client σ}
    (failed : (refreshSchema deployment client).1 = .error failure) :
    view (refreshSchema deployment client).2.catalog = view client.catalog ∧
      Registry.Same client.registry (refreshSchema deployment client).2.registry := by
  have gathered := Registry.finish_refresh deployment.metadata client.registry client.catalog
  have outcome : (Registry.refresh deployment.metadata (client.registry, client.catalog)).1 =
      .error failure := failed
  refine ⟨keeps.fetch client.catalog, ?_⟩
  rcases Registry.finish_cases (.refresh (Gathered.fetch deployment.metadata client.catalog).1)
    client.registry with ⟨-, same⟩ | ⟨_, -, -, tells⟩
  · exact same
  · rw [gathered, outcome] at tells
    exact nomatch tells

end Client

/-! ## Errands that fail -/

namespace Errand

/-- An errand that fails leaves the registry as it is, and the catalog too unless a lookup took a
response that cannot be read. -/
theorem failed_cases {errand : Errand}
    (failed : (errand.perform (.beside origin config) client).1 = .error failure) :
    Registry.Same client.registry (errand.perform (.beside origin config) client).2.registry ∧
      ((errand.perform (.beside origin config) client).2.catalog.1 = client.catalog.1 ∨
        ∃ lookup request response rest, errand = .look lookup ∧
          lookup.request? config = some (.ok request) ∧
          client.catalog.1.prepared = response :: rest ∧
          QueryResult.ofJson response = .error failure ∧
          (errand.perform (.beside origin config) client).2.catalog.1 = { client.catalog.1 with
            received := client.catalog.1.received ++ [request]
            prepared := rest }) := by
  cases errand with
  | look lookup =>
    have registry := Lookup.registry_perform (.beside origin config) lookup client
    refine ⟨.of_eq registry, ?_⟩
    rcases Lookup.failed_cases (Outcome.map_eq_error failed) with
      ⟨-, same⟩ | ⟨request, response, rest, assembled, prepared, unread, sent⟩
    · exact .inl (congrArg Prod.fst same)
    · exact .inr ⟨lookup, request, response, rest, rfl, assembled, prepared, unread,
        congrArg Prod.fst sent⟩
  | create attributes =>
    obtain ⟨created, succeeds⟩ := Client.create_succeeds origin config attributes client
    exact nomatch succeeds.symm.trans (Outcome.map_eq_error failed)
  | save now id attributes =>
    have fails : (Client.save (.beside origin config) now id attributes client).1 =
        .error failure := Outcome.map_eq_error failed
    exact ⟨.of_eq (Client.registry_finish _ _ _),
      .inl (congrArg Prod.fst (Client.save_failed fails))⟩
  | delete id =>
    have succeeds : (Client.delete (.beside origin config) id client).1 = .ok id := rfl
    exact nomatch succeeds.symm.trans (Outcome.map_eq_error failed)
  | sources =>
    exact ⟨.of_eq (Client.registry_finish _ _ _),
      .inl (Client.catalog_sources origin config client)⟩
  | refresh =>
    obtain ⟨same, registry⟩ :=
      Client.refreshSchema_failed origin.keeps_source (Outcome.map_eq_error failed)
    exact ⟨registry, .inl same⟩

/-- Whoever gets an error finds the metacards and the schema with its version as they were before.
If no request could be assembled, nothing of the catalog has changed, neither the log of queries nor
the responses that are laid ready. -/
theorem failed_changes_nothing {errand : Errand} {after : Client (Store × τ)}
    (failed : errand.perform (.beside origin config) client = (.error failure, after)) :
    after.catalog.1.cards = client.catalog.1.cards ∧
      after.registry.current = client.registry.current ∧
      ∀ lookup refusal, errand = .look lookup →
        lookup.request? config = some (.error refusal) →
          refusal = failure ∧ after.catalog = client.catalog := by
  have fails : (errand.perform (.beside origin config) client).1 = .error failure :=
    congrArg Prod.fst failed
  have isAfter : (errand.perform (.beside origin config) client).2 = after :=
    congrArg Prod.snd failed
  subst isAfter
  obtain ⟨registry, catalog⟩ := failed_cases fails
  refine ⟨?_, registry.current, ?_⟩
  · rcases catalog with same | ⟨_, _, _, _, -, -, -, -, sent⟩
    · exact congrArg Store.cards same
    · rw [sent]
  · rintro lookup refusal rfl refused
    rcases Lookup.failed_cases (Outcome.map_eq_error fails) with
      ⟨refusedSo, same⟩ | ⟨_, _, _, assembled, -⟩
    · exact ⟨Except.error.inj (Option.some.inj (refused.symm.trans refusedSo)), same⟩
    · exact nomatch refused.symm.trans assembled

/-- A client of a catalog with one metacard and with a response that cannot be read, which has its
metadata from elsewhere; the names of the attributes there clash. -/
def torn : Client (Store × FixedMetadata) :=
  .new ((Store.empty.insert (.ofList [("id", .text "m1")])).2.prepare (.object []),
    { groups := .ok (.ofList [("resource",
        .ofList [("a-b", .plain "a-b" .string), ("a_b", .plain "a_b" .string)])])
      config := .ok .empty
      enumerations := .empty
      localId := .ok "here" })

theorem failed_changes_nothing_torn :
    let deployment := Deployment.beside (.elsewhere FixedMetadata.source) .standard
    let unread : Errand := .look (.query (.tree .matchAll) .unset)
    let refused : Errand := .look (.query (.tree .matchAll) (Settings.unset.withStart 0))
    (∃ after, unread.perform deployment torn = (.error (.request .statusMissing), after) ∧
      after.catalog.1.received.length = 1 ∧ after.catalog.1.prepared = [] ∧
      after.catalog.1.cards = torn.catalog.1.cards) ∧
    (∃ after, refused.perform deployment torn =
        (.error (.settings (.startBelowOne 0)), after) ∧
      after.catalog = torn.catalog) ∧
    ∃ after, Errand.refresh.perform deployment torn =
        (.error (.nameCollision "a_b" "a-b" "a_b"), after) ∧
      after.registry.current = torn.registry.current := by
  intro deployment unread refused
  have isUnread : unread.perform deployment torn =
      (.error (.request .statusMissing), (unread.perform deployment torn).2) := by rfl
  have isRefused : refused.perform deployment torn =
      (.error (.settings (.startBelowOne 0)), (refused.perform deployment torn).2) := by rfl
  have clashes : Errand.refresh.perform deployment torn =
      (.error (.nameCollision "a_b" "a-b" "a_b"),
        (Errand.refresh.perform deployment torn).2) := by rfl
  obtain ⟨cards, -, -⟩ := failed_changes_nothing isUnread
  obtain ⟨-, -, unsent⟩ := failed_changes_nothing isRefused
  obtain ⟨-, current, -⟩ := failed_changes_nothing clashes
  exact ⟨⟨_, isUnread, rfl, rfl, cards⟩, ⟨_, isRefused, (unsent _ _ rfl rfl).2⟩,
    ⟨_, clashes, current⟩⟩

end Errand

end

end Metacard
