import Mathlib.Data.List.Forall2
import Metacard.Proofs.Client.Session
/-!
# Catalogs that simulate each other

Two catalogs are alike if each of their operations, from states that are alike, has outcomes that
agree and leaves states that are alike. Clients of such catalogs cannot be told apart by any
session, but for the texts of their failures.
-/

set_option autoImplicit false

namespace Metacard

section

variable {α β γ δ : Type}

/-- Both succeed with related values, or both fail with failures of one kind. -/
def Outcome.Agree (related : α → β → Prop) : Except Failure α → Except Failure β → Prop
  | .ok value, .ok other => related value other
  | .error failure, .error other => failure.kind = other.kind
  | .ok _, .error _ | .error _, .ok _ => False

namespace Outcome.Agree

variable {related : α → β → Prop} {outcome : Except Failure α} {other : Except Failure β}

theorem of_eq {outcome other : Except Failure α} (same : outcome = other) :
    Agree Eq outcome other := by
  subst same
  cases outcome <;> rfl

theorem ok_or_error (agree : Agree related outcome other) :
    (∃ value otherValue, outcome = .ok value ∧ other = .ok otherValue ∧
        related value otherValue) ∨
      ∃ failure otherFailure, outcome = .error failure ∧ other = .error otherFailure ∧
        failure.kind = otherFailure.kind := by
  cases outcome with
  | ok value =>
    cases other with
    | ok otherValue => exact .inl ⟨value, otherValue, rfl, rfl, agree⟩
    | error failure => exact agree.elim
  | error failure =>
    cases other with
    | ok value => exact agree.elim
    | error otherFailure => exact .inr ⟨failure, otherFailure, rfl, rfl, agree⟩

theorem bind {relatedResults : γ → δ → Prop} {f : α → Except Failure γ} {g : β → Except Failure δ}
    (agree : Agree related outcome other)
    (each : ∀ value otherValue, related value otherValue →
      Agree relatedResults (f value) (g otherValue)) :
    Agree relatedResults (outcome >>= f) (other >>= g) := by
  rcases agree.ok_or_error with ⟨value, otherValue, rfl, rfl, isRelated⟩ | ⟨_, _, rfl, rfl, same⟩
  · exact each value otherValue isRelated
  · exact same

theorem map {relatedResults : γ → δ → Prop} {f : α → γ} {g : β → δ}
    (agree : Agree related outcome other)
    (each : ∀ value otherValue, related value otherValue →
      relatedResults (f value) (g otherValue)) :
    Agree relatedResults (outcome.map f) (other.map g) := by
  rcases agree.ok_or_error with ⟨value, otherValue, rfl, rfl, isRelated⟩ | ⟨_, _, rfl, rfl, same⟩
  · exact each value otherValue isRelated
  · exact same

theorem bind_left {relatedResults : γ → β → Prop} {f : α → Except Failure γ}
    (agree : Agree related outcome other)
    (each : ∀ value otherValue, other = .ok otherValue → related value otherValue →
      Agree relatedResults (f value) (.ok otherValue)) :
    Agree relatedResults (outcome >>= f) other := by
  rcases agree.ok_or_error with ⟨value, otherValue, rfl, rfl, isRelated⟩ | ⟨_, _, rfl, rfl, same⟩
  · exact each value otherValue rfl isRelated
  · exact same

end Outcome.Agree

end

section

variable {σ τ α β : Type} (alike : σ → τ → Prop)

/-- From states that are alike, the calls have outcomes that agree and leave states that are
alike. -/
def Call.Simulates (related : α → β → Prop) (call : Call σ α) (other : Call τ β) : Prop :=
  ∀ ⦃state otherState⦄, alike state otherState →
    Outcome.Agree related (call state).1 (other otherState).1 ∧
      alike (call state).2 (other otherState).2

theorem Call.Simulates.read {alike : σ → τ → Prop} {related : α → β → Prop} {call : Call σ α}
    {other : Call τ β} (simulates : Call.Simulates alike related call other)
    (f : α → Except Failure β) {reading : Call σ β}
    (isReading : ∀ state, reading state = ((call state).1 >>= f, (call state).2))
    (each : ∀ state otherState, alike state otherState → ∀ value otherValue,
      (other otherState).1 = .ok otherValue → related value otherValue →
        f value = .ok otherValue) :
    Call.Simulates alike Eq reading other := by
  intro state otherState states
  obtain ⟨agree, after⟩ := simulates states
  rw [isReading]
  exact ⟨agree.bind_left fun value otherValue isOther isRelated =>
    .of_eq (each state otherState states value otherValue isOther isRelated), after⟩

/-- All operations simulate each other, the query for the requests that can be sent. -/
structure Backend.Simulates (sendable : Request → Prop) (backend : Backend σ)
    (other : Backend τ) : Prop where
  query : ∀ request, sendable request →
    Call.Simulates alike Eq (backend.query request) (other.query request)
  create : ∀ request, Call.Simulates alike Eq (backend.create request) (other.create request)
  update : ∀ updates, Call.Simulates alike Eq (backend.update updates) (other.update updates)
  delete : ∀ ids, Call.Simulates alike Eq (backend.delete ids) (other.delete ids)
  sourceIds : Call.Simulates alike Eq backend.sourceIds other.sourceIds
  sourceInfo : ∀ ids, Call.Simulates alike Eq (backend.sourceInfo ids) (other.sourceInfo ids)

/-- All metadata simulate each other, the enumerations for the groups that are known. -/
structure MetadataSource.Simulates (known : String → Prop) (source : MetadataSource σ)
    (other : MetadataSource τ) : Prop where
  attributeGroups : Call.Simulates alike
    (fun groups otherGroups => groups = otherGroups ∧ ∀ group ∈ groups.keys, known group)
    source.attributeGroups other.attributeGroups
  enumerationConfig : Call.Simulates alike Eq source.enumerationConfig other.enumerationConfig
  groupEnumerations : ∀ group, known group →
    Call.Simulates alike Eq (source.groupEnumerations group) (other.groupEnumerations group)
  localCatalogId : Call.Simulates alike Eq source.localCatalogId other.localCatalogId

structure Deployment.Simulates (sendable : Request → Prop) (known : String → Prop)
    (deployment : Deployment σ) (other : Deployment τ) : Prop where
  backend : deployment.backend.Simulates alike sendable other.backend
  metadata : deployment.metadata.Simulates alike known other.metadata
  config : deployment.config = other.config

/-- The clients know and measured the same, of catalogs that are alike. -/
structure Client.Alike (client : Client σ) (other : Client τ) : Prop where
  registry : client.registry = other.registry
  meter : client.meter = other.meter
  catalog : alike client.catalog other.catalog

end

variable {σ τ : Type} {alike : σ → τ → Prop}

namespace Client

variable {α β : Type} {related : α → β → Prop} {client : Client σ} {other : Client τ}

theorem Alike.names_eq (clients : client.Alike alike other) : client.names = other.names := by
  rw [names, names, clients.registry]

theorem Alike.note (clients : client.Alike alike other) (observation : Observation) :
    (client.note observation).Alike alike (other.note observation) where
  registry := clients.registry
  meter := congrArg (fun meter => Meter.note meter observation) clients.meter
  catalog := clients.catalog

theorem Alike.noteHits (clients : client.Alike alike other) {outcome otherOutcome}
    (agree : Outcome.Agree Eq outcome otherOutcome) :
    (client.noteHits outcome).Alike alike (other.noteHits otherOutcome) := by
  rcases agree.ok_or_error with ⟨result, _, rfl, rfl, rfl⟩ | ⟨_, _, rfl, rfl, -⟩
  · exact clients.note (.hits result.status.hits)
  · exact clients

theorem Alike.finish (clients : client.Alike alike other) (operation : String)
    {outcome : Except Failure α} {otherOutcome : Except Failure β}
    (agree : Outcome.Agree related outcome otherOutcome) :
    Outcome.Agree related (Client.finish operation outcome client).1
        (Client.finish operation otherOutcome other).1 ∧
      (Client.finish operation outcome client).2.Alike alike
        (Client.finish operation otherOutcome other).2 := by
  refine ⟨agree, ?_⟩
  rcases agree.ok_or_error with ⟨_, _, rfl, rfl, -⟩ | ⟨_, _, rfl, rfl, sameKind⟩
  · exact (clients.note _).note _
  · rw [Client.finish, Client.finish, noteOutcome, noteOutcome, sameKind]
    exact ((clients.note _).note _).note _

theorem simulates_onCatalog {call : Call σ α} {otherCall : Call τ β}
    (simulates : Call.Simulates alike related call otherCall) :
    Call.Simulates (Client.Alike alike) related (onCatalog call) (onCatalog otherCall) := by
  intro client other clients
  obtain ⟨agree, catalogs⟩ := simulates clients.catalog
  exact ⟨agree, clients.registry, clients.meter, catalogs⟩

end Client

section

variable {sendable : Request → Prop} {known : String → Prop} {deployment : Deployment σ}
  {otherDeployment : Deployment τ}
  (simulates : deployment.Simulates alike sendable known otherDeployment)

include simulates

theorem Client.simulates_run (operation : String) (criterion : Criterion) (settings : Settings)
    (sends : ∀ request, Request.assemble criterion
      (effectiveSettings deployment.config settings) = .ok request → sendable request) :
    Call.Simulates (Alike alike) Eq (run deployment operation criterion settings)
      (run otherDeployment operation criterion settings) := by
  intro client other clients
  have counted : ∀ succeeded, Alike alike
      (if criterion.isTree then client.note (.compilation succeeded) else client)
      (if criterion.isTree then other.note (.compilation succeeded) else other) := by
    intro succeeded
    cases criterion.isTree
    · exact clients
    · exact clients.note _
  unfold run
  rw [← simulates.config]
  cases assembled : Request.assemble criterion (effectiveSettings deployment.config settings) with
  | error failure => exact (counted false).finish operation (.of_eq rfl)
  | ok request =>
    obtain ⟨agree, sent⟩ := simulates_onCatalog
      (simulates.backend.query request (sends request assembled)) (counted true)
    have shaped := agree.bind fun response _ same =>
      Outcome.Agree.of_eq (congrArg QueryResult.ofJson same)
    exact (sent.noteHits shaped).finish operation shaped

theorem Lookup.simulates_perform (lookup : Lookup)
    (sends : ∀ request, lookup.request? deployment.config = some (.ok request) →
      sendable request) :
    Call.Simulates (Client.Alike alike) Eq (lookup.perform deployment)
      (lookup.perform otherDeployment) := by
  intro client other clients
  cases sought : lookup.criterion? with
  | none =>
    rw [perform_of_none sought, perform_of_none sought]
    exact ⟨.of_eq rfl, clients⟩
  | some criterion =>
    rw [perform_of_criterion sought, perform_of_criterion sought]
    have sendsRun : ∀ request, Request.assemble criterion
        (Client.effectiveSettings deployment.config lookup.givenSettings) = .ok request →
          sendable request := by
      intro request assembled
      rw [effectiveSettings_given] at assembled
      apply sends
      rw [request?, sought, Option.map_some, assembled]
    obtain ⟨agree, after⟩ := Client.simulates_run simulates lookup.operation criterion
      lookup.givenSettings sendsRun clients
    exact ⟨agree.map fun _ _ same => congrArg lookup.answer same, after⟩

theorem Client.simulates_listSources :
    Call.Simulates alike Eq (listSources deployment) (listSources otherDeployment) := by
  intro state other states
  obtain ⟨ids, asked⟩ := simulates.backend.sourceIds states
  rw [listSources, listSources]
  cases listed : deployment.backend.sourceIds state with
  | mk outcome next =>
    cases otherListed : otherDeployment.backend.sourceIds other with
    | mk otherOutcome otherNext =>
      rw [listed, otherListed] at ids asked
      rcases ids.ok_or_error with ⟨found, _, rfl, rfl, rfl⟩ | ⟨_, _, rfl, rfl, same⟩
      · obtain ⟨sources, described⟩ := simulates.backend.sourceInfo found asked
        obtain ⟨localId, located⟩ := simulates.metadata.localCatalogId described
        refine ⟨sources.bind fun source otherSource sameSources => ?_, located⟩
        refine localId.bind fun id otherId sameIds => ?_
        subst sameSources sameIds
        exact .of_eq rfl
      · exact ⟨same, asked⟩

end

/-! ## Refreshes -/

def Failure.withoutReason : Failure → Failure
  | .partialMetadata group _ => .partialMetadata group ""
  | failure => failure

def RefreshReport.withoutReasons (report : RefreshReport) : RefreshReport :=
  { report with failures := report.failures.map Failure.withoutReason }

namespace Gathered

/-- The same was gathered, and for the same groups nothing. -/
structure Alike (gathered other : Gathered) : Prop where
  attributes : gathered.attributes = other.attributes
  groups : gathered.missing.map Prod.fst = other.missing.map Prod.fst

def AlikeOutcomes : List (String × Except Failure Enumerations) →
    List (String × Except Failure Enumerations) → Prop :=
  List.Forall₂ fun outcome other => outcome.1 = other.1 ∧ Outcome.Agree Eq outcome.2 other.2

theorem AlikeOutcomes.enumerations_eq {outcomes others} (agree : AlikeOutcomes outcomes others) :
    enumerations outcomes = enumerations others := by
  have folded : ∀ all, outcomes.foldl absorb all = others.foldl absorb all := by
    induction agree with
    | nil => exact fun _ => rfl
    | @cons outcome other _ _ first _ inductionHypothesis =>
      intro all
      have absorbed : absorb all outcome = absorb all other := by
        obtain ⟨group, found⟩ := outcome
        obtain ⟨otherGroup, otherFound⟩ := other
        rcases first.2.ok_or_error with ⟨_, _, rfl, rfl, rfl⟩ | ⟨_, _, rfl, rfl, -⟩ <;> rfl
      rw [List.foldl_cons, List.foldl_cons, absorbed]
      exact inductionHypothesis _
  exact folded .empty

theorem AlikeOutcomes.missing_eq {outcomes others} (agree : AlikeOutcomes outcomes others) :
    (missingOf outcomes).map Prod.fst = (missingOf others).map Prod.fst := by
  induction agree with
  | nil => rfl
  | @cons outcome other _ _ first _ inductionHypothesis =>
    obtain ⟨group, found⟩ := outcome
    obtain ⟨otherGroup, otherFound⟩ := other
    obtain ⟨rfl : group = otherGroup, agree⟩ := first
    rcases agree.ok_or_error with ⟨_, _, rfl, rfl, -⟩ | ⟨_, _, rfl, rfl, -⟩
    · exact inductionHypothesis
    · exact congrArg (group :: ·) inductionHypothesis

theorem AlikeOutcomes.ofOutcomes {outcomes others} (agree : AlikeOutcomes outcomes others)
    (groups : AttributeGroups) : (ofOutcomes groups outcomes).Alike (ofOutcomes groups others) where
  attributes := by rw [Gathered.ofOutcomes, Gathered.ofOutcomes, agree.enumerations_eq]
  groups := agree.missing_eq

theorem Alike.failures_eq {gathered other : Gathered} (same : gathered.Alike other) :
    gathered.failures.map Failure.withoutReason = other.failures.map Failure.withoutReason := by
  have byGroup : ∀ gathered : Gathered, gathered.failures.map Failure.withoutReason =
      (gathered.missing.map Prod.fst).map fun group => .partialMetadata group "" := by
    intro gathered
    rw [failures, List.map_map, List.map_map]
    rfl
  rw [byGroup, byGroup, same.groups]

section

variable {known : String → Prop} {source : MetadataSource σ} {otherSource : MetadataSource τ}
  (simulates : source.Simulates alike known otherSource)

include simulates

theorem simulates_fetchGroups (groups : List String) (areKnown : ∀ group ∈ groups, known group) :
    ∀ {state other}, alike state other →
      AlikeOutcomes (fetchGroups source groups state).1 (fetchGroups otherSource groups other).1 ∧
        alike (fetchGroups source groups state).2 (fetchGroups otherSource groups other).2 := by
  induction groups with
  | nil => exact fun states => ⟨.nil, states⟩
  | cons group rest inductionHypothesis =>
    intro state other states
    obtain ⟨isKnown, restKnown⟩ := List.forall_mem_cons.1 areKnown
    obtain ⟨agree, next⟩ := simulates.groupEnumerations group isKnown states
    obtain ⟨others, last⟩ := inductionHypothesis restKnown next
    exact ⟨.cons ⟨rfl, agree⟩ others, last⟩

theorem simulates_fetch : Call.Simulates alike Alike (fetch source) (fetch otherSource) := by
  intro state other states
  obtain ⟨groups, asked⟩ := simulates.attributeGroups states
  rw [fetch, fetch]
  cases reported : source.attributeGroups state with
  | mk outcome next =>
    cases otherReported : otherSource.attributeGroups other with
    | mk otherOutcome otherNext =>
      rw [reported, otherReported] at groups asked
      rcases groups.ok_or_error with
        ⟨found, _, rfl, rfl, rfl, areKnown⟩ | ⟨_, _, rfl, rfl, same⟩
      · obtain ⟨config, configured⟩ := simulates.enumerationConfig asked
        obtain ⟨outcomes, last⟩ := simulates_fetchGroups simulates found.keys areKnown configured
        have all : AlikeOutcomes ((configGroup, (source.enumerationConfig next).1) :: _)
            ((configGroup, (otherSource.enumerationConfig otherNext).1) :: _) :=
          .cons ⟨rfl, config⟩ outcomes
        exact ⟨all.ofOutcomes found, last⟩
      · exact ⟨same, asked⟩

end

end Gathered

namespace Registry

theorem noteMissing_eq {missing other : List (String × Failure)}
    (same : missing.map Prod.fst = other.map Prod.fst) (registry : Registry) :
    registry.noteMissing missing = registry.noteMissing other := by
  have byGroup : ∀ missing : List (String × Failure), registry.noteMissing missing =
      (missing.map Prod.fst).foldl (fun noted group => noted.note (.enumerationFailure group))
        registry := by
    intro missing
    rw [List.foldl_map, noteMissing]
  rw [byGroup, byGroup, same]

/-- A registry does not depend on why something is missing. -/
theorem settle_alike {gathered other : Except Failure Gathered}
    (agree : Outcome.Agree Gathered.Alike gathered other) (registry : Registry) :
    Outcome.Agree (fun report other => report.withoutReasons = other.withoutReasons)
        (settle gathered registry).1 (settle other registry).1 ∧
      (settle gathered registry).2 = (settle other registry).2 := by
  rcases agree.ok_or_error with
    ⟨found, otherFound, rfl, rfl, same⟩ | ⟨_, _, rfl, rfl, sameKind⟩
  · have sameEmpty : found.missing.isEmpty = otherFound.missing.isEmpty := by
      rw [← @List.isEmpty_map _ _ _ Prod.fst, same.groups, List.isEmpty_map]
    have sameCount : found.enumeratedCount = otherFound.enumeratedCount := by
      rw [Gathered.enumeratedCount, Gathered.enumeratedCount, same.attributes]
    simp only [settle, noteMissing_eq same.groups, same.attributes, sameEmpty, sameCount]
    split
    · exact ⟨rfl, rfl⟩
    · refine ⟨?_, rfl⟩
      simp only [Outcome.Agree, RefreshReport.withoutReasons, same.failures_eq]
  · exact ⟨sameKind, rfl⟩

end Registry

/-! ## Errands and sessions -/

def Errand.withoutTime : Errand → Errand
  | .save _ id attributes => .save "" id attributes
  | errand => errand

/-- The answer without what depends on the time of a save and without the reasons in a report. -/
def Errand.stripped (errand : Errand) (answer : Answer) : Answer :=
  match errand, answer with
  | .save _ _ _, .attributes saved => .attributes (saved.erase (safeName "metacard.modified"))
  | _, .report report => .report report.withoutReasons
  | _, answer => answer

/-- The calls were made for the same thing, by clients that are alike, and came to the same. -/
structure Made.Alike (alike : σ → τ → Prop) (call : Made σ) (other : Made τ) : Prop where
  errand : call.errand.withoutTime = other.errand.withoutTime
  client : call.client.Alike alike other.client
  outcome : Outcome.Agree
    (fun answer other => call.errand.stripped answer = call.errand.stripped other)
    call.outcome other.outcome

theorem Client.erase_savedAttributes (id now later : String) (attributes : Table Json) :
    (savedAttributes id now attributes).erase (safeName "metacard.modified") =
      (savedAttributes id later attributes).erase (safeName "metacard.modified") := by
  apply Table.ext_find?
  intro key
  by_cases same : key = safeName "metacard.modified"
  · rw [same, Table.find?_erase_self, Table.find?_erase_self]
  · rw [Table.find?_erase_of_ne _ same, Table.find?_erase_of_ne _ same, savedAttributes,
      savedAttributes, Table.find?_insertAll, Table.find?_insertAll,
      Table.find?_insert_of_ne _ _ same, Table.find?_insert_of_ne _ _ same]

theorem Client.agree_savedAttributes (id now later : String) (attributes : Table Json)
    {outcome other : Except Failure Unit} (agree : Outcome.Agree Eq outcome other) :
    Outcome.Agree
      (fun saved other => saved.erase (safeName "metacard.modified") =
        other.erase (safeName "metacard.modified"))
      (outcome.map fun _ => savedAttributes id now attributes)
      (other.map fun _ => savedAttributes id later attributes) :=
  agree.map fun _ _ _ => erase_savedAttributes id now later attributes

section

variable {sendable : Request → Prop} {known : String → Prop} {deployment : Deployment σ}
  {otherDeployment : Deployment τ}
  (simulates : deployment.Simulates alike sendable known otherDeployment)

include simulates

theorem Client.simulates_refreshSchema :
    Call.Simulates (Alike alike)
      (fun report other => report.withoutReasons = other.withoutReasons)
      (refreshSchema deployment) (refreshSchema otherDeployment) := by
  intro client other clients
  obtain ⟨gathered, asked⟩ := Gathered.simulates_fetch simulates.metadata clients.catalog
  obtain ⟨reports, registries⟩ := Registry.settle_alike gathered client.registry
  rw [refreshSchema, refreshSchema, Registry.refresh, Registry.refresh, ← clients.registry]
  exact ⟨reports, registries, clients.meter, asked⟩

theorem Errand.simulates_perform {errand other : Errand}
    (same : errand.withoutTime = other.withoutTime)
    (sends : ∀ lookup, errand = .look lookup → ∀ request,
      lookup.request? deployment.config = some (.ok request) → sendable request) :
    Call.Simulates (Client.Alike alike)
      (fun answer other => errand.stripped answer = errand.stripped other)
      (errand.perform deployment) (other.perform otherDeployment) := by
  intro client otherClient clients
  cases errand with
  | look lookup =>
    cases other <;> cases same
    obtain ⟨agree, after⟩ := lookup.simulates_perform simulates (sends lookup rfl) clients
    exact ⟨agree.map fun _ _ found => congrArg (fun found => Answer.found found) found, after⟩
  | create attributes =>
    cases other <;> cases same
    obtain ⟨agree, sent⟩ := Client.simulates_onCatalog
      (simulates.backend.create (Client.createRequest client.names attributes)) clients
    have created := (agree.bind fun reply _ same =>
      Outcome.Agree.of_eq (congrArg Client.createdAttributes same)).map
        fun _ _ same => congrArg NameMap.renameToSafe same
    obtain ⟨finished, after⟩ := sent.finish "create" created
    rw [perform, perform, Client.create, Client.create, ← clients.names_eq]
    exact ⟨finished.map fun _ _ same => congrArg (fun saved => Answer.attributes saved) same, after⟩
  | save now id attributes =>
    cases other <;> cases same
    rename_i later
    obtain ⟨agree, sent⟩ := Client.simulates_onCatalog
      (simulates.backend.update [Client.saveUpdate client.names id attributes]) clients
    obtain ⟨finished, after⟩ :=
      sent.finish "save" (Client.agree_savedAttributes id now later attributes agree)
    rw [perform, perform, Client.save, Client.save, ← clients.names_eq]
    exact ⟨finished.map fun _ _ same => congrArg (fun saved => Answer.attributes saved) same, after⟩
  | delete id =>
    cases other <;> cases same
    obtain ⟨agree, sent⟩ := Client.simulates_onCatalog (simulates.backend.delete [id]) clients
    obtain ⟨finished, after⟩ := sent.finish "delete" (agree.map fun _ _ _ => (rfl : id = id))
    exact ⟨finished.map fun _ _ same => congrArg (fun id => Answer.id id) same, after⟩
  | sources =>
    cases other <;> cases same
    obtain ⟨agree, sent⟩ := Client.simulates_onCatalog (Client.simulates_listSources simulates)
      clients
    obtain ⟨finished, after⟩ := sent.finish "sources" agree
    exact ⟨finished.map fun _ _ same => congrArg (fun found => Answer.sources found) same, after⟩
  | refresh =>
    cases other <;> cases same
    obtain ⟨agree, after⟩ := Client.simulates_refreshSchema simulates clients
    exact ⟨agree.map fun _ _ same => congrArg (fun report => Answer.report report) same, after⟩

/-- Whole sessions: at each place the same is known, the same is measured, and the same comes of
it. -/
theorem Errand.simulates_performAll {errands others : List Errand}
    (same : List.Forall₂ (fun errand other => errand.withoutTime = other.withoutTime)
      errands others)
    (sends : ∀ errand ∈ errands, ∀ lookup, errand = .look lookup → ∀ request,
      lookup.request? deployment.config = some (.ok request) → sendable request) :
    ∀ {client : Client σ} {other : Client τ}, client.Alike alike other →
      List.Forall₂ (Made.Alike alike) (performAll deployment errands client).1
          (performAll otherDeployment others other).1 ∧
        (performAll deployment errands client).2.Alike alike
          (performAll otherDeployment others other).2 := by
  induction same with
  | nil => exact fun clients => ⟨.nil, clients⟩
  | cons first _ inductionHypothesis =>
    intro client other clients
    obtain ⟨firstSends, restSend⟩ := List.forall_mem_cons.1 sends
    obtain ⟨agree, next⟩ := simulates_perform simulates first firstSends clients
    obtain ⟨made, last⟩ := inductionHypothesis restSend next
    exact ⟨.cons ⟨first, clients, agree⟩ made, last⟩

end

end Metacard
