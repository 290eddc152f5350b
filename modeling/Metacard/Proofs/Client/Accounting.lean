import Metacard.Proofs.Client.Session
import Metacard.Proofs.Meter
/-!
# Measurements account for calls

Every call of a client is counted once under its operation, as a success or as a failure of its
kind, and has one time. Every lookup that succeeds has one sample of hits. Only a lookup of no
references is not measured at all.
-/

set_option autoImplicit false

namespace Metacard

variable {σ : Type}

def Failure.kinds : List String :=
  ["invalid_predicate", "invalid_settings", "identifier_collision", "backend_request_failed",
    "partial_metadata_failure", "serialization"]

theorem Failure.mem_kinds_of_kindOf? {α : Type} {outcome : Except Failure α} {kind : String}
    (failed : kindOf? outcome = some kind) : kind ∈ kinds := by
  cases outcome with
  | ok value => exact nomatch failed
  | error failure =>
    obtain rfl := Option.some.inj failed
    cases failure <;> simp [Failure.kind, kinds]

theorem Failure.nodup_kinds : kinds.Nodup := by
  decide

def Client.recorder (client : Client σ) : Meter where
  observations := client.meter.observations ++ client.registry.meter.observations

/-- The label under which a call is measured. Refreshes are measured by the schema. -/
def Errand.label? : Errand → Option String
  | .look lookup => lookup.criterion?.map fun _ => lookup.operation
  | .create _ => some "create"
  | .save _ _ _ => some "save"
  | .delete _ => some "delete"
  | .sources => some "sources"
  | .refresh => none

/-- What the response to a lookup is shaped into, if it gets as far as that. -/
def Lookup.result? (deployment : Deployment σ) (lookup : Lookup) (client : Client σ) :
    Option QueryResult :=
  match lookup.request? deployment.config with
  | some (.ok request) =>
      ((deployment.backend.query request client.catalog).1.bind QueryResult.ofJson).toOption
  | some (.error _) | none => none

namespace Made

def result? (deployment : Deployment σ) (call : Made σ) : Option QueryResult :=
  match call.errand with
  | .look lookup => lookup.result? deployment call.client
  | _ => none

/-- The call is one of an operation, which ended so: without a failure or with one of a kind. -/
def EndedSo (operation : String) (kind? : Option String) (call : Made σ) : Prop :=
  call.errand.label? = some operation ∧ Failure.kindOf? call.outcome = kind?

def Failed (operation : String) (call : Made σ) : Prop :=
  call.errand.label? = some operation ∧ Failure.kindOf? call.outcome ≠ none

instance (operation : String) (kind? : Option String) :
    DecidablePred (EndedSo operation kind? : Made σ → Prop) :=
  fun call => inferInstanceAs (Decidable (_ ∧ Failure.kindOf? call.outcome = kind?))

instance (operation : String) : DecidablePred (Failed operation : Made σ → Prop) :=
  fun call => inferInstanceAs (Decidable (_ ∧ Failure.kindOf? call.outcome ≠ none))

end Made

/-- What is noted when an operation ends. -/
def Observation.ending (operation : String) (kind? : Option String) : List Observation :=
  (match kind? with
    | none => [.operation operation "success"]
    | some kind => [.operation operation "error", .failure operation kind]) ++
    [.latency operation none]

def Observation.endings (label? kind? : Option String) : List Observation :=
  match label? with
  | some label => ending label kind?
  | none => []

def Lookup.compilations (config : Config) (lookup : Lookup) : List Bool :=
  match lookup.criterion? with
  | some criterion =>
      if criterion.isTree then [(Request.assemble criterion (lookup.settings config)).isOk] else []
  | none => []

def Lookup.ahead (deployment : Deployment σ) (lookup : Lookup) (client : Client σ) :
    List Observation :=
  (lookup.compilations deployment.config).map .compilation ++
    (lookup.result? deployment client).toList.map fun result => .hits result.status.hits

def Errand.ahead (deployment : Deployment σ) (errand : Errand) (client : Client σ) :
    List Observation :=
  match errand with
  | .look lookup => lookup.ahead deployment client
  | _ => []

def Made.notes (deployment : Deployment σ) (call : Made σ) : List Observation :=
  call.errand.ahead deployment call.client ++
    Observation.endings call.errand.label? (Failure.kindOf? call.outcome)

namespace Client

theorem outcome_finish {α : Type} (operation : String) (outcome : Except Failure α)
    (client : Client σ) : (finish operation outcome client).1 = outcome :=
  rfl

theorem meter_onCatalog {α : Type} (call : Call σ α) (client : Client σ) :
    (onCatalog call client).2.meter = client.meter :=
  rfl

theorem observations_finish {α : Type} (operation : String) (outcome : Except Failure α)
    (client : Client σ) :
    (finish operation outcome client).2.meter.observations =
      client.meter.observations ++ Observation.ending operation (Failure.kindOf? outcome) := by
  cases outcome <;>
    simp [finish, noteOutcome, note, Meter.note, Observation.ending, Failure.kindOf?]

theorem observations_noteHits (client : Client σ) (outcome : Except Failure QueryResult) :
    (client.noteHits outcome).meter.observations = client.meter.observations ++
      outcome.toOption.toList.map fun result => .hits result.status.hits := by
  cases outcome <;> simp [noteHits, note, Meter.note, Except.toOption]

theorem observations_run (deployment : Deployment σ) (operation : String) (criterion : Criterion)
    (settings : Settings) (client : Client σ) :
    (run deployment operation criterion settings client).2.meter.observations =
      client.meter.observations ++
        ((if criterion.isTree then
            [(Request.assemble criterion (effectiveSettings deployment.config settings)).isOk]
          else []).map .compilation ++
        (match Request.assemble criterion (effectiveSettings deployment.config settings) with
          | .ok request =>
              ((deployment.backend.query request client.catalog).1.bind
                QueryResult.ofJson).toOption.toList.map fun result => .hits result.status.hits
          | .error _ => []) ++
        Observation.ending operation
          (Failure.kindOf? (run deployment operation criterion settings client).1)) := by
  rw [outcome_run]
  unfold run
  cases Request.assemble criterion (effectiveSettings deployment.config settings) with
  | error failure =>
    cases criterion.isTree <;> simp [observations_finish, note, Meter.note]
  | ok request =>
    cases criterion.isTree <;>
      simp [observations_finish, observations_noteHits, onCatalog, note, Meter.note]

end Client

theorem Lookup.observations_perform (deployment : Deployment σ) (lookup : Lookup)
    (client : Client σ) :
    (lookup.perform deployment client).2.meter.observations =
      client.meter.observations ++ Made.notes deployment
        ⟨.look lookup, client, (lookup.perform deployment client).1.map .found⟩ := by
  rw [Made.notes, Errand.ahead, ahead, compilations, Errand.label?, result?, request?]
  cases sought : lookup.criterion? with
  | none => simp [perform_of_none sought, Observation.endings]
  | some criterion =>
    simp only [perform_of_criterion sought, Client.observations_run, effectiveSettings_given,
      Option.map_some, Failure.kindOf?_map]
    cases Request.assemble criterion (lookup.settings deployment.config) <;> rfl

theorem Errand.observations_perform (deployment : Deployment σ) (errand : Errand)
    (client : Client σ) :
    (errand.perform deployment client).2.meter.observations =
      client.meter.observations ++ Made.notes deployment
        ⟨errand, client, (errand.perform deployment client).1⟩ := by
  cases errand with
  | look lookup => exact lookup.observations_perform deployment client
  | create attributes =>
    simp [perform, Made.notes, ahead, label?, Client.create, Client.observations_finish,
      Client.outcome_finish, Client.meter_onCatalog, Observation.endings]
  | save now id attributes =>
    simp [perform, Made.notes, ahead, label?, Client.save, Client.observations_finish,
      Client.outcome_finish, Client.meter_onCatalog, Observation.endings]
  | delete id =>
    simp [perform, Made.notes, ahead, label?, Client.delete, Client.observations_finish,
      Client.outcome_finish, Client.meter_onCatalog, Observation.endings]
  | sources =>
    simp [perform, Made.notes, ahead, label?, Client.sources, Client.observations_finish,
      Client.outcome_finish, Client.meter_onCatalog, Observation.endings]
  | refresh =>
    simp [perform, Made.notes, ahead, label?, Client.refreshSchema, Observation.endings]

/-! ## What a session notes -/

theorem Errand.observations_performAll (deployment : Deployment σ) (errands : List Errand) :
    ∀ client : Client σ, (performAll deployment errands client).2.meter.observations =
      client.meter.observations ++
        (performAll deployment errands client).1.flatMap (Made.notes deployment) := by
  induction errands with
  | nil =>
    intro client
    exact (List.append_nil _).symm
  | cons errand rest inductionHypothesis =>
    intro client
    have step := observations_perform deployment errand client
    rw [performAll, List.flatMap_cons, ← List.append_assoc, ← step]
    exact inductionHypothesis _

def Observation.IsAboutSchema : Observation → Prop
  | .schemaVersion _ | .schemaAttributes _ | .refresh _ | .enumerationFailure _ => True
  | .operation _ _ | .latency _ _ | .hits _ | .compilation _ | .failure _ _ => False

namespace Registry

def NotesSchema (registry : Registry) : Prop :=
  ∀ observation ∈ registry.meter.observations, observation.IsAboutSchema

theorem notesSchema_new : new.NotesSchema :=
  fun _ member => nomatch member

theorem NotesSchema.note {registry : Registry} (notes : registry.NotesSchema)
    {observation : Observation} (isAboutSchema : observation.IsAboutSchema) :
    (registry.note observation).NotesSchema := by
  intro other member
  rcases List.mem_append.1 member with member | member
  · exact notes other member
  · rw [List.mem_singleton.1 member]
    exact isAboutSchema

theorem NotesSchema.noteMissing (missing : List (String × Failure)) :
    ∀ {registry : Registry}, registry.NotesSchema → (registry.noteMissing missing).NotesSchema := by
  induction missing with
  | nil => exact id
  | cons entry rest inductionHypothesis =>
    intro registry notes
    exact inductionHypothesis (notes.note trivial)

theorem NotesSchema.publish {registry : Registry} (notes : registry.NotesSchema)
    (attributes : List Attribute) : (publish attributes registry).2.NotesSchema := by
  rw [Registry.publish]
  cases Schema.build (Attribute.builtin ++ attributes) with
  | error failure => exact notes
  | ok schema =>
    have versioned : (registry.note (.schemaVersion (registry.version + 1))).NotesSchema :=
      notes.note trivial
    have sized : ((registry.note (.schemaVersion (registry.version + 1))).note
        (.schemaAttributes schema.attributes.length)).NotesSchema := versioned.note trivial
    exact sized

theorem NotesSchema.settle {registry : Registry} (notes : registry.NotesSchema)
    (gathered : Except Failure Gathered) : (settle gathered registry).2.NotesSchema := by
  cases gathered with
  | error failure => exact notes.note trivial
  | ok found =>
    have published := (notes.noteMissing found.missing).publish found.attributes
    rw [Registry.settle]
    split <;> rename_i isPublished <;> rw [isPublished] at published <;>
      exact published.note trivial

end Registry

namespace Errand

theorem notesSchema_perform (deployment : Deployment σ) (errand : Errand) {client : Client σ}
    (notes : client.registry.NotesSchema) :
    (errand.perform deployment client).2.registry.NotesSchema := by
  cases errand with
  | look lookup =>
    have registry := lookup.registry_perform deployment client
    exact registry ▸ notes
  | create | save | delete | sources =>
    simp only [perform, Client.create, Client.save, Client.delete, Client.sources,
      Client.registry_finish]
    exact notes
  | refresh => exact notes.settle _

theorem notesSchema_performAll (deployment : Deployment σ) (errands : List Errand) :
    ∀ {client : Client σ}, client.registry.NotesSchema →
      (performAll deployment errands client).2.registry.NotesSchema := by
  induction errands with
  | nil => exact id
  | cons errand rest inductionHypothesis =>
    intro client notes
    exact inductionHypothesis (notesSchema_perform deployment errand notes)

end Errand

section

variable {client : Client σ} (notes : client.registry.NotesSchema)

include notes

theorem Client.count_recorder {observation : Observation}
    (isOfCall : ¬ observation.IsAboutSchema) :
    client.recorder.count observation = client.meter.count observation := by
  have absent : client.registry.meter.observations.count observation = 0 :=
    List.count_eq_zero.2 fun member => isOfCall (notes observation member)
  rw [recorder, Meter.count, Meter.count, List.count_append, absent, Nat.add_zero]

theorem Client.filterMap_recorder {α : Type} {read? : Observation → Option α}
    (ofCalls : ∀ observation, observation.IsAboutSchema → read? observation = none) :
    client.recorder.observations.filterMap read? = client.meter.observations.filterMap read? := by
  have absent : client.registry.meter.observations.filterMap read? = [] :=
    List.filterMap_eq_nil_iff.2 fun observation member =>
      ofCalls observation (notes observation member)
  rw [recorder, List.filterMap_append, absent, List.append_nil]

end

theorem Errand.of_mem_ahead {deployment : Deployment σ} {errand : Errand} {client : Client σ}
    {observation : Observation} (member : observation ∈ errand.ahead deployment client) :
    (∃ succeeded, observation = .compilation succeeded) ∨ ∃ found, observation = .hits found := by
  cases errand with
  | look lookup =>
    rcases List.mem_append.1 member with member | member
    · obtain ⟨succeeded, -, rfl⟩ := List.mem_map.1 member
      exact .inl ⟨_, rfl⟩
    · obtain ⟨result, -, rfl⟩ := List.mem_map.1 member
      exact .inr ⟨_, rfl⟩
  | create | save | delete | sources | refresh => exact nomatch member

namespace Observation

variable (operation : String) (label? kind? : Option String)

theorem count_success_endings :
    (endings label? kind?).count (.operation operation "success") =
      if label? = some operation ∧ kind? = none then 1 else 0 := by
  cases label? with
  | none => rfl
  | some label =>
    cases kind? <;> by_cases same : label = operation <;> simp [endings, ending, same]

theorem count_error_endings :
    (endings label? kind?).count (.operation operation "error") =
      if label? = some operation ∧ kind? ≠ none then 1 else 0 := by
  cases label? with
  | none => rfl
  | some label =>
    cases kind? <;> by_cases same : label = operation <;> simp [endings, ending, same]

theorem count_failure_endings (kind : String) :
    (endings label? kind?).count (.failure operation kind) =
      if label? = some operation ∧ kind? = some kind then 1 else 0 := by
  cases label? with
  | none => rfl
  | some label =>
    cases kind? with
    | none => simp [endings, ending]
    | some found =>
      by_cases same : label = operation <;> by_cases sameKind : found = kind <;>
        simp [endings, ending, same, sameKind]

theorem filterMap_latency?_endings :
    (endings label? kind?).filterMap (latency? operation) =
      if label? = some operation then [none] else [] := by
  cases label? with
  | none => rfl
  | some label =>
    cases kind? <;> by_cases same : label = operation <;>
      simp [endings, ending, List.filterMap_cons, latency?, same]

theorem filterMap_hits?_endings : (endings label? kind?).filterMap hits? = [] := by
  cases label? <;> cases kind? <;> rfl

end Observation

theorem Lookup.filterMap_hits?_ahead (deployment : Deployment σ) (lookup : Lookup)
    (client : Client σ) :
    (lookup.ahead deployment client).filterMap Observation.hits? =
      ((lookup.result? deployment client).map fun result => result.status.hits).toList := by
  have compiled : ((lookup.compilations deployment.config).map Observation.compilation).filterMap
      Observation.hits? = [] := by
    apply List.filterMap_eq_nil_iff.2
    intro observation member
    obtain ⟨succeeded, -, rfl⟩ := List.mem_map.1 member
    rfl
  rw [ahead, List.filterMap_append, compiled, List.nil_append]
  cases lookup.result? deployment client <;> rfl

namespace Made

variable (deployment : Deployment σ) (operation : String)

theorem count_notes {observation : Observation}
    (noCompilation : ∀ succeeded, observation ≠ .compilation succeeded)
    (noHits : ∀ found, observation ≠ .hits found) (call : Made σ) :
    (call.notes deployment).count observation =
      (Observation.endings call.errand.label? (Failure.kindOf? call.outcome)).count
        observation := by
  have absent : (call.errand.ahead deployment call.client).count observation = 0 := by
    apply List.count_eq_zero.2
    intro member
    rcases Errand.of_mem_ahead member with ⟨succeeded, same⟩ | ⟨found, same⟩
    · exact noCompilation succeeded same
    · exact noHits found same
  rw [notes, List.count_append, absent, Nat.zero_add]

theorem count_success (call : Made σ) :
    (call.notes deployment).count (.operation operation "success") =
      if EndedSo operation none call then 1 else 0 :=
  (count_notes deployment (by simp) (by simp) call).trans
    (Observation.count_success_endings operation _ _)

theorem count_error (call : Made σ) :
    (call.notes deployment).count (.operation operation "error") =
      if Failed operation call then 1 else 0 :=
  (count_notes deployment (by simp) (by simp) call).trans
    (Observation.count_error_endings operation _ _)

theorem count_failure (kind : String) (call : Made σ) :
    (call.notes deployment).count (.failure operation kind) =
      if EndedSo operation (some kind) call then 1 else 0 :=
  (count_notes deployment (by simp) (by simp) call).trans
    (Observation.count_failure_endings operation _ _ kind)

theorem filterMap_latency?_notes (call : Made σ) :
    (call.notes deployment).filterMap (Observation.latency? operation) =
      if call.errand.label? = some operation then [none] else [] := by
  have absent : (call.errand.ahead deployment call.client).filterMap
      (Observation.latency? operation) = [] := by
    apply List.filterMap_eq_nil_iff.2
    intro observation member
    rcases Errand.of_mem_ahead member with ⟨succeeded, rfl⟩ | ⟨found, rfl⟩ <;> rfl
  rw [notes, List.filterMap_append, absent, List.nil_append,
    Observation.filterMap_latency?_endings]

theorem filterMap_hits?_notes (call : Made σ) :
    (call.notes deployment).filterMap Observation.hits? =
      ((call.result? deployment).map fun result => result.status.hits).toList := by
  rw [notes, List.filterMap_append, Observation.filterMap_hits?_endings, List.append_nil]
  unfold result? Errand.ahead
  cases call.errand with
  | look lookup => exact lookup.filterMap_hits?_ahead deployment call.client
  | create | save | delete | sources | refresh => rfl

/-- A call that failed did so with one kind, so the counts by kind come to the count of failures. -/
theorem sum_countP_endedSo (calls : List (Made σ)) :
    (Failure.kinds.map fun kind =>
      calls.countP fun call => EndedSo operation (some kind) call).sum =
        calls.countP fun call => Failed operation call := by
  induction calls with
  | nil => simp
  | cons call rest inductionHypothesis =>
    have ofCall : (Failure.kinds.map fun kind =>
        if EndedSo operation (some kind) call then 1 else 0).sum =
          if Failed operation call then 1 else 0 := by
      cases ended : Failure.kindOf? call.outcome with
      | none => simp [EndedSo, Failed, ended]
      | some kind =>
        have isKind : kind ∈ Failure.kinds := Failure.mem_kinds_of_kindOf? ended
        have once : Failure.kinds.count kind = 1 :=
          List.count_eq_one_of_mem Failure.nodup_kinds isKind
        by_cases labelled : call.errand.label? = some operation
        · rw [List.sum_map_eq_nsmul_single kind _ fun other differs _ => by
            simp [EndedSo, ended, Ne.symm differs]]
          simp [EndedSo, Failed, ended, labelled, once]
        · simp [EndedSo, Failed, labelled]
    simp only [List.countP_cons, List.sum_map_add, inductionHypothesis, decide_eq_true_eq, ofCall]

end Made

namespace Registry

def noted (registry : Registry) : Nat :=
  registry.meter.observations.length

theorem noted_note (registry : Registry) (observation : Observation) :
    (registry.note observation).noted = registry.noted + 1 := by
  simp [noted, note, Meter.note]

theorem noted_le_noteMissing (missing : List (String × Failure)) :
    ∀ registry : Registry, registry.noted ≤ (registry.noteMissing missing).noted := by
  induction missing with
  | nil => exact fun registry => Nat.le_refl registry.noted
  | cons entry rest inductionHypothesis =>
    intro registry
    have step := noted_note registry (.enumerationFailure entry.1)
    have others := inductionHypothesis (registry.note (.enumerationFailure entry.1))
    exact Nat.le_trans (by omega) others

theorem noted_le_publish (attributes : List Attribute) (registry : Registry) :
    registry.noted ≤ (publish attributes registry).2.noted := by
  rw [publish]
  cases Schema.build (Attribute.builtin ++ attributes) with
  | error failure => exact Nat.le_refl registry.noted
  | ok schema => simp [noted, advance, Meter.note]

theorem noted_lt_settle (gathered : Except Failure Gathered) (registry : Registry) :
    registry.noted < (settle gathered registry).2.noted := by
  cases gathered with
  | error failure =>
    rw [settle, noted_note]
    exact Nat.lt_succ_self registry.noted
  | ok found =>
    have missing := noted_le_noteMissing found.missing registry
    have published := noted_le_publish found.attributes (registry.noteMissing found.missing)
    rw [settle]
    split <;> rename_i isPublished <;> rw [isPublished] at published <;> rw [noted_note] <;>
      exact Nat.lt_succ_of_le (Nat.le_trans missing published)

end Registry

theorem Lookup.criterion?_eq_none_iff {lookup : Lookup} :
    lookup.criterion? = none ↔ lookup = .related ⟨[]⟩ := by
  cases lookup with
  | query | metacardById | metacardsByTag | facet => simp [criterion?]
  | related references =>
    rcases references with ⟨_ | ⟨id, rest⟩⟩ <;>
      simp [criterion?, Related.filter?, Related.isEmpty]

theorem Errand.records_nothing_iff (deployment : Deployment σ) (errand : Errand)
    (client : Client σ) :
    (errand.perform deployment client).2.recorder.observations = client.recorder.observations ↔
      errand = .look (.related ⟨[]⟩) := by
  constructor
  · intro nothing
    have lengths := congrArg List.length nothing
    simp only [Client.recorder, List.length_append, observations_perform] at lengths
    cases label : errand.label? with
    | some operation =>
      have ends : 0 < (Made.notes deployment
          ⟨errand, client, (errand.perform deployment client).1⟩).length := by
        simp only [Made.notes, label, Observation.endings, Observation.ending, List.length_append,
          List.length_singleton]
        omega
      have registry : (errand.perform deployment client).2.registry = client.registry := by
        cases errand with
        | look lookup => exact lookup.registry_perform deployment client
        | create | save | delete | sources => exact Client.registry_finish _ _ _
        | refresh => exact nomatch label
      rw [registry] at lengths
      omega
    | none =>
      cases errand with
      | look lookup =>
        have unsought := Option.map_eq_none_iff.1 label
        rw [Lookup.criterion?_eq_none_iff.1 unsought]
      | create | save | delete | sources => exact nomatch label
      | refresh =>
        have more := Registry.noted_lt_settle
          (Gathered.fetch deployment.metadata client.catalog).1 client.registry
        exact absurd lengths (Nat.ne_of_gt (Nat.add_lt_add_of_le_of_lt (Nat.le_add_right _ _) more))
  · rintro rfl
    rfl

/-! ## Whole sessions -/

/-- The measures that a session leaves account for its calls: each is counted under its operation by
how it ended, and timed once; the hits are those of the lookups that were answered. -/
structure Accounted (deployment : Deployment σ) (calls : List (Made σ)) (last : Client σ) :
    Prop where
  successes : ∀ operation, last.recorder.total (.operation operation "success") =
    calls.countP fun call => Made.EndedSo operation none call
  errors : ∀ operation, last.recorder.total (.operation operation "error") =
    calls.countP fun call => Made.Failed operation call
  failures : ∀ operation kind, last.recorder.total (.failure operation kind) =
    calls.countP fun call => Made.EndedSo operation (some kind) call
  kinds : ∀ operation,
    (Failure.kinds.map fun kind => last.recorder.total (.failure operation kind)).sum =
      last.recorder.total (.operation operation "error")
  times : ∀ operation, (last.recorder.latencySamples operation).length =
    calls.countP fun call => call.errand.label? = some operation
  hits : last.recorder.hitSamples = (calls.filterMap (Made.result? deployment)).map
    fun result => Magnitude.ofNat result.status.hits
  answers : ∀ call ∈ calls, ∀ lookup, call.errand = .look lookup → lookup.criterion? ≠ none →
    call.outcome.toOption = (lookup.result? deployment call.client).map
      fun result => .found (lookup.answer result)

section

variable (deployment : Deployment σ) (catalog : σ) (errands : List Errand)

theorem Errand.total_performAll {observation : Observation} (isCounted : observation.IsCounted)
    (isOfCall : ¬ observation.IsAboutSchema) {p : Made σ → Prop} [DecidablePred p]
    (each : ∀ call : Made σ,
      (call.notes deployment).count observation = if p call then 1 else 0) :
    (performAll deployment errands (.new catalog)).2.recorder.total observation =
      (performAll deployment errands (.new catalog)).1.countP fun call => p call := by
  have ofSchema := notesSchema_performAll deployment errands
    (show (Client.new catalog).registry.NotesSchema from Registry.notesSchema_new)
  rw [Meter.total_eq_count isCounted, Client.count_recorder ofSchema isOfCall, Meter.count,
    observations_performAll, ← Meter.count_flatMap_eq_countP each]
  rfl

theorem Errand.filterMap_performAll {α : Type} {read? : Observation → Option α}
    (ofCalls : ∀ observation, observation.IsAboutSchema → read? observation = none) :
    (performAll deployment errands (.new catalog)).2.recorder.observations.filterMap read? =
      (performAll deployment errands (.new catalog)).1.flatMap fun call =>
        (call.notes deployment).filterMap read? := by
  have ofSchema := notesSchema_performAll deployment errands
    (show (Client.new catalog).registry.NotesSchema from Registry.notesSchema_new)
  rw [Client.filterMap_recorder ofSchema ofCalls, observations_performAll, ← List.filterMap_flatMap]
  rfl

theorem Lookup.toOption_perform {lookup : Lookup} (sought : lookup.criterion? ≠ none)
    (client : Client σ) :
    ((lookup.perform deployment client).1.map Answer.found).toOption =
      (lookup.result? deployment client).map fun result => .found (lookup.answer result) := by
  rw [outcome_perform, result?, request?]
  cases isSought : lookup.criterion? with
  | none => exact absurd isSought sought
  | some criterion =>
    rw [Option.map_some]
    cases Request.assemble criterion (lookup.settings deployment.config) with
    | error failure => rfl
    | ok request =>
      dsimp only
      cases (deployment.backend.query request client.catalog).1.bind QueryResult.ofJson <;> rfl

theorem Errand.accounted_performAll :
    Accounted deployment (performAll deployment errands (.new catalog)).1
      (performAll deployment errands (.new catalog)).2 := by
  have errors := fun operation => total_performAll deployment catalog errands
    (by trivial) (by exact id) (Made.count_error deployment operation)
  have failures := fun operation kind => total_performAll deployment catalog errands
    (by trivial) (by exact id) (Made.count_failure deployment operation kind)
  exact {
    successes := fun operation => total_performAll deployment catalog errands
      (by trivial) (by exact id) (Made.count_success deployment operation)
    errors := errors
    failures := failures
    kinds := by
      intro operation
      rw [errors, ← Made.sum_countP_endedSo]
      exact congrArg List.sum (List.map_congr_left fun kind _ => failures operation kind)
    times := by
      intro operation
      rw [Meter.latencySamples_eq, filterMap_performAll deployment catalog errands
        (by rintro (_ | _) aboutSchema <;> first | rfl | exact aboutSchema.elim),
        List.length_flatMap, ← Meter.sum_map_ite_eq_countP]
      congr 2
      funext call
      rw [Made.filterMap_latency?_notes]
      split <;> rfl
    hits := by
      rw [Meter.hitSamples_eq, filterMap_performAll deployment catalog errands
        (by rintro (_ | _) aboutSchema <;> first | rfl | exact aboutSchema.elim)]
      simp only [Made.filterMap_hits?_notes]
      rw [← List.filterMap_eq_flatMap_toList, ← List.map_filterMap, List.map_map]
      rfl
    answers := by
      intro call member lookup isLookup sought
      rw [outcome_of_mem_performAll call member, isLookup]
      exact lookup.toOption_perform deployment sought call.client }

/-- Whatever a client is asked for, and whatever its catalog does, the measures account for the
calls; and of all calls only lookups of no references leave no trace in them. -/
theorem Errand.calls_accounted :
    Accounted deployment (performAll deployment errands (.new catalog)).1
        (performAll deployment errands (.new catalog)).2 ∧
      ∀ (client : Client σ) (errand : Errand),
        (errand.perform deployment client).2.recorder.observations =
            client.recorder.observations ↔ errand = .look (.related ⟨[]⟩) :=
  ⟨accounted_performAll deployment catalog errands, fun client errand =>
    errand.records_nothing_iff deployment client⟩

end

end Metacard
