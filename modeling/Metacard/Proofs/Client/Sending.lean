import Metacard.Proofs.Client.InMemory
/-!
# What a client sends

Every lookup of a client comes to at most one request, which depends on the lookup and on the
default page size alone. To count what a catalog is asked, the catalog is put behind a log.
-/

set_option autoImplicit false

namespace Metacard

variable {σ : Type}

inductive Demand where
  | query (request : Request)
  | create (request : Json)
  | update (updates : List MetacardUpdate)
  | delete (ids : List String)
  | sourceIds
  | sourceInfo (ids : List String)
  deriving DecidableEq

/-- A catalog with a log of what it was asked, oldest first. -/
structure Logged (σ : Type) where
  catalog : σ
  log : List Demand

namespace Logged

def noting {α : Type} (demand : Demand) (call : Call σ α) : Call (Logged σ) α := fun logged =>
  let (outcome, catalog) := call logged.catalog
  (outcome, ⟨catalog, logged.log ++ [demand]⟩)

def passing {α : Type} (call : Call σ α) : Call (Logged σ) α := fun logged =>
  let (outcome, catalog) := call logged.catalog
  (outcome, ⟨catalog, logged.log⟩)

def backend (backend : Backend σ) : Backend (Logged σ) where
  query request := noting (.query request) (backend.query request)
  create request := noting (.create request) (backend.create request)
  update updates := noting (.update updates) (backend.update updates)
  delete ids := noting (.delete ids) (backend.delete ids)
  sourceIds := noting .sourceIds backend.sourceIds
  sourceInfo ids := noting (.sourceInfo ids) (backend.sourceInfo ids)

def metadata (source : MetadataSource σ) : MetadataSource (Logged σ) where
  attributeGroups := passing source.attributeGroups
  enumerationConfig := passing source.enumerationConfig
  groupEnumerations group := passing (source.groupEnumerations group)
  localCatalogId := passing source.localCatalogId

end Logged

def Deployment.logged (deployment : Deployment σ) : Deployment (Logged σ) where
  backend := Logged.backend deployment.backend
  metadata := Logged.metadata deployment.metadata
  config := deployment.config

def Client.logged (client : Client σ) (log : List Demand) : Client (Logged σ) where
  registry := client.registry
  meter := client.meter
  catalog := ⟨client.catalog, log⟩

/-! ## Lookups -/

inductive Lookup where
  | query (criterion : Criterion) (settings : Settings)
  | metacardById (id : String) (settings : Settings)
  | metacardsByTag (tag : String) (settings : Settings)
  | facet (property : String)
  | related (references : Related)

inductive Found where
  | result (result : QueryResult)
  | buckets (buckets : List FacetBucket)
  | records (records : List Record)

namespace Lookup

def perform (deployment : Deployment σ) (lookup : Lookup) : Call (Client σ) Found := fun client =>
  match lookup with
  | .query criterion settings =>
      let (outcome, next) := Client.query deployment criterion settings client
      (outcome.map .result, next)
  | .metacardById id settings =>
      let (outcome, next) := Client.metacardById deployment id settings client
      (outcome.map .result, next)
  | .metacardsByTag tag settings =>
      let (outcome, next) := Client.metacardsByTag deployment tag settings client
      (outcome.map .result, next)
  | .facet property =>
      let (outcome, next) := Client.facet deployment property client
      (outcome.map .buckets, next)
  | .related references =>
      let (outcome, next) := Client.related deployment references client
      (outcome.map .records, next)

/-- What is looked for; no references are not looked for at all. -/
def criterion? : Lookup → Option Criterion
  | .query criterion _ => some criterion
  | .metacardById id _ => some (.tree (.and (.equal "id" (.text id)) .anyTag))
  | .metacardsByTag tag _ => some (.tree (.equal "metacard-tags" (.text tag)))
  | .facet _ => some (.tree .matchAll)
  | .related references => references.filter?.map .tree

/-- The settings that are sent: those of the caller with the default page size if they set none, or
those of the lookup, which sets nothing else. -/
def settings (config : Config) : Lookup → Settings
  | .query _ settings | .metacardById _ settings | .metacardsByTag _ settings =>
      { settings with count := settings.count.or config.defaultCount }
  | .facet property => { Settings.unset with count := some 0, facets := [property] }
  | .related references => { Settings.unset with count := some references.ids.length }

def request? (config : Config) (lookup : Lookup) : Option (Except Failure Request) :=
  lookup.criterion?.map fun criterion => Request.assemble criterion (lookup.settings config)

def demands (config : Config) (lookup : Lookup) : List Demand :=
  match lookup.request? config with
  | some (.ok request) => [.query request]
  | some (.error _) | none => []

end Lookup

namespace Client

/-! Notes are the same with a log and without one. -/

theorem logged_note (client : Client σ) (log : List Demand) (observation : Observation) :
    (client.logged log).note observation = (client.note observation).logged log :=
  rfl

theorem logged_noteHits (client : Client σ) (log : List Demand)
    (outcome : Except Failure QueryResult) :
    (client.logged log).noteHits outcome = (client.noteHits outcome).logged log := by
  cases outcome <;> rfl

theorem logged_finish {α : Type} (operation : String) (outcome : Except Failure α)
    (client : Client σ) (log : List Demand) :
    finish operation outcome (client.logged log) =
      (outcome, (finish operation outcome client).2.logged log) := by
  cases outcome <;> rfl

theorem logged_onCatalog_query (deployment : Deployment σ) (request : Request)
    (client : Client σ) (log : List Demand) :
    onCatalog (deployment.logged.backend.query request) (client.logged log) =
      ((onCatalog (deployment.backend.query request) client).1,
        (onCatalog (deployment.backend.query request) client).2.logged (log ++ [.query request])) :=
  rfl

theorem run_logged (deployment : Deployment σ) (operation : String) (criterion : Criterion)
    (settings : Settings) (client : Client σ) (log : List Demand) :
    run deployment.logged operation criterion settings (client.logged log) =
      ((run deployment operation criterion settings client).1,
        (run deployment operation criterion settings client).2.logged (log ++
          match Request.assemble criterion (effectiveSettings deployment.config settings) with
          | .ok request => [.query request]
          | .error _ => [])) := by
  have config : deployment.logged.config = deployment.config := rfl
  unfold run
  rw [config]
  cases Request.assemble criterion (effectiveSettings deployment.config settings) with
  | error failure =>
    simp only [List.append_nil, logged_note]
    cases criterion.isTree <;> exact logged_finish operation _ _ log
  | ok request =>
    simp only [logged_note]
    cases criterion.isTree <;>
      simp only [if_true, if_false, Bool.false_eq_true, logged_onCatalog_query, logged_noteHits] <;>
      exact logged_finish operation _ _ _

end Client

namespace Lookup

def operation : Lookup → String
  | .query _ _ => "query"
  | .metacardById _ _ => "metacard_by_id"
  | .metacardsByTag _ _ => "metacards_by_tag"
  | .facet _ => "facet"
  | .related _ => "related"

def givenSettings : Lookup → Settings
  | .query _ settings | .metacardById _ settings | .metacardsByTag _ settings => settings
  | .facet property => (Settings.unset.withCount 0).withFacet property
  | .related references => Settings.unset.withCount references.ids.length

def answer : Lookup → QueryResult → Found
  | .query _ _, result | .metacardById _ _, result | .metacardsByTag _ _, result => .result result
  | .facet property, result => .buckets ((result.facet? property).getD [])
  | .related _, result => .records result.records

theorem effectiveSettings_given (config : Config) (lookup : Lookup) :
    Client.effectiveSettings config lookup.givenSettings = lookup.settings config := by
  rw [Client.effectiveSettings_eq]
  cases lookup <;> rfl

theorem perform_of_criterion {lookup : Lookup} {criterion : Criterion}
    (sought : lookup.criterion? = some criterion) (deployment : Deployment σ) (client : Client σ) :
    lookup.perform deployment client =
      let (outcome, next) :=
        Client.run deployment lookup.operation criterion lookup.givenSettings client
      (outcome.map lookup.answer, next) := by
  cases lookup with
  | query given settings =>
    obtain rfl := Option.some.inj sought
    rfl
  | metacardById id settings =>
    obtain rfl := Option.some.inj sought
    rfl
  | metacardsByTag tag settings =>
    obtain rfl := Option.some.inj sought
    rfl
  | facet property =>
    obtain rfl := Option.some.inj sought
    simp only [perform, Client.facet, Outcome.map_map]
    rfl
  | related references =>
    obtain ⟨filter, isFilter, rfl⟩ := Option.map_eq_some_iff.1 sought
    simp only [perform, Client.related, isFilter, Outcome.map_map]
    rfl

theorem perform_of_none {lookup : Lookup} (nothing : lookup.criterion? = none)
    (deployment : Deployment σ) (client : Client σ) :
    lookup.perform deployment client = (.ok (.records []), client) := by
  cases lookup with
  | query | metacardById | metacardsByTag | facet => exact nomatch nothing
  | related references =>
    have noFilter := Option.map_eq_none_iff.1 nothing
    simp only [perform, Client.related, noFilter]
    rfl

theorem registry_perform (deployment : Deployment σ) (lookup : Lookup) (client : Client σ) :
    (lookup.perform deployment client).2.registry = client.registry := by
  cases sought : lookup.criterion? with
  | none => rw [perform_of_none sought]
  | some criterion =>
    rw [perform_of_criterion sought]
    exact Client.registry_run deployment _ criterion _ client

theorem outcome_perform (deployment : Deployment σ) (lookup : Lookup) (client : Client σ) :
    (lookup.perform deployment client).1 =
      match lookup.request? deployment.config with
      | some (.ok request) =>
          ((deployment.backend.query request client.catalog).1.bind QueryResult.ofJson).map
            lookup.answer
      | some (.error failure) => .error failure
      | none => .ok (.records []) := by
  cases sought : lookup.criterion? with
  | none => rw [perform_of_none sought, request?, sought, Option.map_none]
  | some criterion =>
    simp only [perform_of_criterion sought, Client.outcome_run, effectiveSettings_given, request?,
      sought, Option.map_some]
    cases Request.assemble criterion (lookup.settings deployment.config) <;> rfl

theorem catalog_perform (deployment : Deployment σ) (lookup : Lookup) (client : Client σ) :
    (lookup.perform deployment client).2.catalog =
      match lookup.request? deployment.config with
      | some (.ok request) => (deployment.backend.query request client.catalog).2
      | some (.error _) | none => client.catalog := by
  cases sought : lookup.criterion? with
  | none => rw [perform_of_none sought, request?, sought, Option.map_none]
  | some criterion =>
    simp only [perform_of_criterion sought, Client.catalog_run, effectiveSettings_given, request?,
      sought, Option.map_some]
    cases Request.assemble criterion (lookup.settings deployment.config) <;> rfl

/-- A lookup has the same outcome with a log and without one, and leaves the same client; the log
has the assembled request more. -/
theorem perform_logged (deployment : Deployment σ) (lookup : Lookup) (client : Client σ)
    (log : List Demand) :
    lookup.perform deployment.logged (client.logged log) =
      ((lookup.perform deployment client).1,
        (lookup.perform deployment client).2.logged (log ++ lookup.demands deployment.config)) := by
  cases sought : lookup.criterion? with
  | none =>
    simp only [perform_of_none sought, demands, request?, sought, Option.map_none, List.append_nil]
  | some criterion =>
    simp only [perform_of_criterion sought, Client.run_logged, effectiveSettings_given, demands,
      request?, sought, Option.map_some]
    cases Request.assemble criterion (lookup.settings deployment.config) <;> rfl

theorem perform_of_refused {deployment : Deployment σ} {lookup : Lookup} {failure : Failure}
    (refused : lookup.request? deployment.config = some (.error failure)) (client : Client σ) :
    (lookup.perform deployment client).1 = .error failure := by
  rw [outcome_perform, refused]

theorem compiles_of_filter? {references : Related} {filter : Filter}
    (isFilter : references.filter? = some filter) : Cql.Compiles filter := by
  rw [Related.filter?] at isFilter
  split at isFilter
  · exact nomatch isFilter
  · rename_i nonempty
    obtain rfl := Option.some.inj isFilter
    apply Cql.compiles_and _ Cql.compiles_anyTag
    apply Cql.compiles_group
    · simpa [Related.isEmpty] using nonempty
    · intro member isMember
      obtain ⟨id, -, rfl⟩ := List.mem_map.1 isMember
      exact Cql.compiles_equal_text (by decide) id

theorem exists_assembled_iff {lookup : Lookup} {tree : Filter}
    (sought : lookup.criterion? = some (.tree tree)) (compiles : Cql.Compiles tree)
    (config : Config) :
    (∃ request, lookup.request? config = some (.ok request)) ↔
      (lookup.settings config).InBounds := by
  obtain ⟨text, hasText⟩ := (Criterion.exists_hasText_tree_iff tree).2 compiles
  rw [request?, sought, Option.map_some]
  constructor
  · rintro ⟨request, assembled⟩
    exact (Request.assemble_eq_ok_iff.1 (Option.some.inj assembled)).1
  · intro inBounds
    exact ⟨⟨text, lookup.settings config⟩,
      congrArg some (Request.assemble_eq_ok_iff.2 ⟨inBounds, hasText, rfl⟩)⟩

theorem inBounds_facet (config : Config) (property : String) :
    ((facet property).settings config).InBounds := by
  constructor <;> simp [Lookup.settings, Settings.unset]

theorem inBounds_related (config : Config) (references : Related) :
    ((related references).settings config).InBounds := by
  constructor <;> simp [Lookup.settings, Settings.unset]

/-- A catalog is asked once for the assembled request of a lookup, and for nothing if there is none,
whatever the state of the client; a request that is refused is reported to the caller. A request is
assembled just if its settings are in bounds and its criterion has a text, and settings out of
bounds are reported whatever the criterion is. Lookups by id and by tag are refused for their
settings alone, and those of facets and of references never. -/
theorem sent_by_request_alone (deployment : Deployment σ) :
    (∀ (lookup : Lookup) (client : Client σ) (log : List Demand),
      lookup.perform deployment.logged (client.logged log) =
        ((lookup.perform deployment client).1,
          (lookup.perform deployment client).2.logged
            (log ++ lookup.demands deployment.config))) ∧
    (∀ (lookup : Lookup) (client : Client σ) (failure : Failure),
      lookup.request? deployment.config = some (.error failure) →
        (lookup.perform deployment client).1 = .error failure) ∧
    (∀ criterion settings request, Request.assemble criterion settings = .ok request ↔
      settings.InBounds ∧ criterion.HasText request.cql ∧ request.settings = settings) ∧
    (∀ criterion settings,
      (∃ fault, Request.assemble criterion settings = .error (.settings fault)) ↔
        ¬ settings.InBounds) ∧
    (∀ id settings,
      (∃ request, (metacardById id settings).request? deployment.config = some (.ok request)) ↔
        ((metacardById id settings).settings deployment.config).InBounds) ∧
    (∀ tag settings,
      (∃ request, (metacardsByTag tag settings).request? deployment.config = some (.ok request)) ↔
        ((metacardsByTag tag settings).settings deployment.config).InBounds) ∧
    (∀ property, ∃ request,
      (facet property).request? deployment.config = some (.ok request)) ∧
    (related ⟨[]⟩).request? deployment.config = none ∧
    ∀ id ids, ∃ request,
      (related ⟨id :: ids⟩).request? deployment.config = some (.ok request) := by
  have byId (id : String) : Cql.Compiles (.and (.equal "id" (.text id)) .anyTag) :=
    Cql.compiles_and (Cql.compiles_equal_text (by decide) id) Cql.compiles_anyTag
  have byTag (tag : String) : Cql.Compiles (.equal "metacard-tags" (.text tag)) :=
    Cql.compiles_equal_text (by decide) tag
  refine ⟨perform_logged deployment, fun _ client _ refused => perform_of_refused refused client,
    fun _ _ _ => Request.assemble_eq_ok_iff, fun _ _ => Request.assemble_eq_settings_iff,
    fun id _ => exists_assembled_iff rfl (byId id) _,
    fun tag _ => exists_assembled_iff rfl (byTag tag) _, ?_, rfl, ?_⟩
  · intro property
    exact (exists_assembled_iff rfl Cql.compiles_matchAll _).2 (inBounds_facet _ property)
  · intro id ids
    have isFilter : Related.filter? ⟨id :: ids⟩ = some _ := rfl
    have sought : (related ⟨id :: ids⟩).criterion? = some (.tree _) := rfl
    exact (exists_assembled_iff sought (compiles_of_filter? isFilter) _).2 (inBounds_related _ _)

/-- With an empty group and a start below 1 it is the start that is reported. -/
theorem sent_by_request_alone_refused :
    let deployment : Deployment Store := .inMemory Store.metadata .standard
    let lookup : Lookup := .query (.tree (.all [])) (Settings.unset.withStart 0)
    lookup.request? deployment.config = some (.error (.settings (.startBelowOne 0))) ∧
      (lookup.perform deployment (.new .empty)).1 = .error (.settings (.startBelowOne 0)) :=
  ⟨rfl, (sent_by_request_alone _).2.1 _ _ _ rfl⟩

end Lookup

end Metacard
