import Metacard.Proofs.Http.Service
/-!
# The catalog in memory and over the network

A client over the network, whose peer serves a catalog in memory, and a client of that catalog
itself cannot be told apart by any session: the calls succeed with the same, fail with failures of
one kind, and leave the same catalog.
-/

set_option autoImplicit false

namespace Metacard

variable {σ : Type}

namespace Store

/-- What the catalog reports of its attributes and sources is read back from the wire. -/
structure IsPlain (store : Store) : Prop where
  types : store.groups.HasReadTypes
  details : ∀ source ∈ store.sources, source.HasPlainDetails

def reported (store : Store) : AttributeGroups × List SourceInfo :=
  (store.groups, store.sources)

theorem reported_insert (properties : Table Json) (store : Store) :
    (store.insert properties).2.reported = store.reported := by
  rw [insert]
  cases (properties.find? "id").bind Json.text? <;> rfl

theorem reported_insertAll (cards : List Json) :
    ∀ store : Store, (insertAll cards store).2.reported = store.reported := by
  induction cards with
  | nil => exact fun _ => rfl
  | cons card rest inductionHypothesis =>
    intro store
    exact (inductionHypothesis _).trans (reported_insert (requestedProperties card) store)

theorem reported_query (request : Request) (store : Store) :
    (query request store).2.reported = store.reported := by
  rw [query]
  cases store.prepared <;> rfl

theorem reported_create (request : Json) (store : Store) :
    (create request store).2.reported = store.reported := by
  rw [create]
  cases (request.member? "metacards").bind Json.items? with
  | none => rfl
  | some cards => exact reported_insertAll cards store

theorem reported_updateCards (changes : List AttributeUpdate) (ids : List String) :
    ∀ store : Store, (updateCards changes ids store).2.reported = store.reported := by
  induction ids with
  | nil => exact fun _ => rfl
  | cons id rest inductionHypothesis =>
    intro store
    rw [updateCards]
    cases store.cards.find? id with
    | none => rfl
    | some card => exact inductionHypothesis _

theorem reported_update (updates : List MetacardUpdate) :
    ∀ store : Store, (update updates store).2.reported = store.reported := by
  induction updates with
  | nil => exact fun _ => rfl
  | cons first rest inductionHypothesis =>
    intro store
    have changed := reported_updateCards first.attributes first.ids store
    rw [update]
    cases ran : updateCards first.attributes first.ids store with
    | mk outcome next =>
      rw [ran] at changed
      cases outcome with
      | ok done => exact (inductionHypothesis next).trans changed
      | error failure => exact changed

theorem request_of_updateCards_failed {changes : List AttributeUpdate} {ids : List String}
    {failure : Failure} : ∀ {store : Store}, (updateCards changes ids store).1 = .error failure →
      ∃ fault, failure = .request fault := by
  induction ids with
  | nil => exact fun failed => nomatch failed
  | cons id rest inductionHypothesis =>
    intro store failed
    rw [updateCards] at failed
    cases found : store.cards.find? id with
    | none =>
      rw [found] at failed
      exact ⟨_, (Except.error.inj failed).symm⟩
    | some card =>
      rw [found] at failed
      exact inductionHypothesis failed

theorem request_of_update_failed {updates : List MetacardUpdate} {failure : Failure} :
    ∀ {store : Store}, (update updates store).1 = .error failure →
      ∃ fault, failure = .request fault := by
  induction updates with
  | nil => exact fun failed => nomatch failed
  | cons first rest inductionHypothesis =>
    intro store failed
    rw [update] at failed
    cases ran : updateCards first.attributes first.ids store with
    | mk outcome next =>
      rw [ran] at failed
      cases outcome with
      | ok done => exact inductionHypothesis failed
      | error other =>
        have stopped : (updateCards first.attributes first.ids store).1 = .error failure := by
          rw [ran]
          exact failed
        exact request_of_updateCards_failed stopped

end Store

namespace Http

namespace Order

theorem keeps_reported (order : Order) : Call.Keeps Store.reported order.run := by
  intro store
  cases order with
  | demand demand =>
    cases demand with
    | query request => exact Store.reported_query request store
    | create request => exact Store.reported_create request store
    | update updates => exact Store.reported_update updates store
    | delete | sourceIds | sourceInfo => rfl
  | groupEnumerations group =>
    exact congrArg Store.reported (MetadataSource.keeps_store.groupEnumerations group store)
  | attributeGroups | enumerationConfig | localCatalogId => rfl

theorem request_of_failed {order : Order} {store : Store} {failure : Failure}
    (failed : (order.run store).1 = .error failure) : ∃ fault, failure = .request fault := by
  cases order with
  | demand demand =>
    cases demand with
    | query request =>
      have refused : (Store.query request store).1 = .error failure := Outcome.map_eq_error failed
      rw [Store.query] at refused
      split at refused <;> cases refused
    | create request =>
      have refused : (Store.create request store).1 = .error failure := Outcome.map_eq_error failed
      rw [Store.create] at refused
      split at refused
      · cases refused
      · exact ⟨_, (Except.error.inj refused).symm⟩
    | update updates =>
      exact Store.request_of_update_failed (Outcome.map_eq_error failed)
    | delete | sourceIds | sourceInfo => cases failed
  | groupEnumerations group =>
    have unavailable : (Store.enumerationsOf group store).1 = .error failure :=
      Outcome.map_eq_error failed
    rw [Store.enumerationsOf] at unavailable
    split at unavailable
    · exact ⟨_, (Except.error.inj unavailable).symm⟩
    · cases unavailable
  | attributeGroups | enumerationConfig | localCatalogId => cases failed

end Order

/-! ## Places on the wire -/

/-- The target of messages to an address, if they are sent at all. -/
def Url.sentTo? (url : Url) : Option String :=
  if url.withoutCredentials.isRequestable then some url.withoutCredentials.target else none

def Url.targetOf? (address : String) : Option String :=
  (Url.parse address).toOption.bind Url.sentTo?

namespace Service

def orderAt? (service : Service) (config : Config) (segments : List String) : Option Order :=
  ((Remote.metadataUrl config segments).toOption.bind Url.sentTo?).bind service.metadataOf?

/-- The addresses of a configuration are those of the service; the enumerations of each group are
found under its name. -/
structure IsReached (service : Service) (config : Config) (groups : List String) : Prop where
  calls : Url.targetOf? config.rpcUrl = some service.calls
  updates : Url.targetOf? (config.endpoint "/metacards") = some service.updates
  attributeGroups : service.orderAt? config ["metacardtype"] = some .attributeGroups
  enumerationConfig : service.orderAt? config ["config"] = some .enumerationConfig
  groupEnumerations : ∀ group ∈ groups,
    service.orderAt? config ["enumerations", "metacardtype", group] =
      some (.groupEnumerations group)
  localCatalogId : service.orderAt? config ["localcatalogid"] = some .localCatalogId

end Service

/-- The client over the network stands before a peer with the catalog in view. Its groups are those
that are reached, and what it reports is read back. -/
structure Remote.Views (view : σ → Store) (groups : List String) (remote : Remote σ)
    (store : Store) : Prop where
  view : view remote.peer = store
  isPlain : store.IsPlain
  groups : store.groups.keys = groups

theorem Order.Tells.agree {α β : Type} {order : Order} {toJson : β → Json} {stored : Call Store β}
    (isRun : order.run = carrying toJson stored) {store : Store} {reply : Reply}
    (tells : order.Tells (order.run store).1 reply) {related : α → β → Prop} (name : String)
    {read : Reply → Except Failure α}
    (each : ∀ found, (stored store).1 = .ok found → order.Carries (toJson found) reply.body →
      Outcome.Agree related (read reply) (.ok found)) :
    Outcome.Agree related (Remote.accepted name reply >>= read) (stored store).1 := by
  have outcome : (order.run store).1 = (stored store).1.map toJson := by
    rw [isRun]
    rfl
  rw [Remote.accepted]
  cases ran : (stored store).1 with
  | ok found =>
    rw [outcome, ran] at tells
    rw [if_pos tells.1]
    exact each found ran tells.2
  | error failure =>
    have failed : (order.run store).1 = .error failure := by
      rw [outcome, ran]
      rfl
    obtain ⟨fault, rfl⟩ := request_of_failed failed
    rw [failed] at tells
    rw [if_neg (Bool.eq_false_iff.1 tells)]
    rfl

namespace Remote

variable {peer : Peer σ} {service : Service} {view : σ → Store} {config : Config}
  {groups : List String}

/-- A peer that did what was ordered has the catalog in view as the order leaves it. -/
theorem Views.after {α : Type} {remote next : Remote σ} {store : Store}
    (views : remote.Views view groups store) {order : Order} {toJson : α → Json}
    {stored : Call Store α} (isRun : order.run = carrying toJson stored)
    (same : view next.peer = (order.run store).2) : next.Views view groups (stored store).2 := by
  have kept := order.keeps_reported store
  rw [isRun] at kept same
  obtain ⟨sameGroups, sameSources⟩ := Prod.mk.inj kept
  exact {
    view := same
    isPlain := ⟨sameGroups ▸ views.isPlain.types, sameSources ▸ views.isPlain.details⟩
    groups := (congrArg Table.keys sameGroups).trans views.groups }

theorem resultOf_of_hasResult {reply result : Json} (hasResult : Order.HasResult reply result)
    (method : String) : resultOf method reply = .ok result := by
  have noError : (reply.member? "error").filter (fun error => !error.isNull) = none := by
    apply Option.filter_eq_none_iff.2
    intro error isError
    rw [hasResult.noError error isError]
    decide
  rw [resultOf, noError, hasResult.result]

theorem sourcesOf_sourcesJson {sources : List SourceInfo}
    (plain : ∀ source ∈ sources, source.HasPlainDetails) :
    sourcesOf (sourcesJson sources) = .ok sources := by
  have member : (sourcesJson sources).member? "sourceInfo" =
      some (.array (sources.map SourceInfo.toJson)) := rfl
  rw [sourcesOf, member]
  dsimp only
  rw [carried, Decode.list_map_self fun source member =>
    SourceInfo.decode_toJson (plain source member)]
  rfl

theorem Views.hasPlainDetails {remote : Remote σ} {store : Store}
    (views : remote.Views view groups store) {ids : List String} {sources : List SourceInfo}
    (found : (Store.sourceInfo ids store).1 = .ok sources) :
    ∀ source ∈ sources, source.HasPlainDetails := by
  obtain rfl := Except.ok.inj found
  exact fun source member => views.isPlain.details source (List.mem_filter.1 member).1

theorem idsOf?_idsJson (ids : List String) : idsOf? (idsJson ids) = some ids := by
  have found : (idsJson ids).member? "ids" = some (.array (ids.map .text)) := rfl
  rw [idsOf?, found, Option.map_some, Decode.texts]
  rfl

section

variable (serves : peer.Serves service view)

include serves

theorem exists_reply {url : Url} {method : Method} {target : String} {body : Option Json}
    {order : Order} (isSent : url.sentTo? = some target)
    (isRead : service.read? ⟨method, target, body⟩ = some order) (name : String) (state : σ) :
    ∃ reply next, send peer name method url body state = (.ok reply, next) ∧
      order.Tells (order.run (view state)).1 reply ∧ view next = (order.run (view state)).2 := by
  obtain ⟨reply, next, answered, tells, viewed⟩ := serves isRead state
  refine ⟨reply, next, ?_, tells, viewed⟩
  rw [Url.sentTo?] at isSent
  split at isSent
  · rename_i isRequestable
    have isTarget : url.withoutCredentials.target = target := Option.some.inj isSent
    simp only [send, isRequestable, isTarget, answered, if_true]
  · exact nomatch isSent

theorem exists_reply_to {address target : String} {method : Method} {body : Option Json}
    {order : Order} (isTarget : Url.targetOf? address = some target)
    (isRead : service.read? ⟨method, target, body⟩ = some order) (name : String) (state : σ) :
    ∃ reply next, sendTo peer name method address body state = (.ok reply, next) ∧
      order.Tells (order.run (view state)).1 reply ∧ view next = (order.run (view state)).2 := by
  obtain ⟨url, isParsed, isSent⟩ := Option.bind_eq_some_iff.1 isTarget
  have parsed : Url.parse address = .ok url := Outcome.toOption_eq_some isParsed
  rw [sendTo, parsed]
  exact exists_reply serves isSent isRead name state

/-- A call simulates the order that is read off its envelope. -/
theorem simulates_call (reached : service.IsReached config groups) {method : String}
    {params : Json} {demand : Demand} (isRead : demandOf? method params = some demand) {α : Type}
    {toJson : α → Json} {stored : Call Store α}
    (isRun : Order.run (.demand demand) = carrying toJson stored) {related : Json → α → Prop}
    (each : ∀ found body, Order.Carries (.demand demand) (toJson found) body →
      ∃ reply result, body.Carries reply ∧ Order.HasResult reply result ∧ related result found) :
    Call.Simulates (Views view groups) related (call config peer method params) stored := by
  intro remote store views
  have isCall : callOf? (envelope remote.nextId method params) = some demand := isRead
  have isOrder : service.read? ⟨.post, service.calls,
      some (envelope remote.nextId method params)⟩ = some (.demand demand) := by
    rw [Service.read?]
    simp only [if_true, isCall]
    rfl
  obtain ⟨reply, next, sent, tells, viewed⟩ :=
    exists_reply_to serves reached.calls isOrder method remote.peer
  rw [views.view] at tells viewed
  simp only [call, onPeer, sent]
  refine ⟨tells.agree isRun method fun found _ carries => ?_, views.after isRun viewed⟩
  obtain ⟨answer, result, isBody, hasResult, isRelated⟩ := each found reply.body carries
  have isResult := resultOf_of_hasResult hasResult method
  rw [content, Body.value?_eq_some_iff.2 isBody]
  simp only [bind, Except.bind, isResult]
  exact isRelated

theorem simulates_update (reached : service.IsReached config groups)
    (updates : List MetacardUpdate) :
    Call.Simulates (Views view groups) Eq (update config peer updates) (Store.update updates) := by
  intro remote store views
  have isRead : updatesOf? (.array (updates.map MetacardUpdate.toJson)) = some updates := by
    rw [updatesOf?, Decode.list_map_self fun update _ => update.decode_toJson]
    rfl
  have isOrder : service.read? ⟨.patch, service.updates,
      some (.array (updates.map MetacardUpdate.toJson))⟩ = some (.demand (.update updates)) := by
    rw [Service.read?]
    simp only [if_true, isRead]
    rfl
  obtain ⟨reply, next, sent, tells, viewed⟩ :=
    exists_reply_to serves reached.updates isOrder "PATCH /metacards" remote.peer
  rw [views.view] at tells viewed
  have isRun : Order.run (.demand (.update updates)) =
      carrying (fun _ => .null) (Store.update updates) := rfl
  simp only [update, onPeer, sent]
  refine ⟨?_, views.after isRun viewed⟩
  have asRead : ((accepted "PATCH /metacards" reply).map fun _ => ()) =
      accepted "PATCH /metacards" reply >>= fun _ => .ok () := by
    cases accepted "PATCH /metacards" reply <;> rfl
  exact asRead ▸ tells.agree isRun "PATCH /metacards" fun _ _ _ => .of_eq rfl

theorem simulates_fetch {segments : List String} {order : Order}
    (isAt : service.orderAt? config segments = some order) {α β : Type} {toJson : β → Json}
    {stored : Call Store β} (isRun : order.run = carrying toJson stored) {read? : Body → Option α}
    {related : α → β → Prop}
    (each : ∀ store : Store, store.IsPlain → store.groups.keys = groups → ∀ found,
      (stored store).1 = .ok found → ∀ body, order.Carries (toJson found) body →
        ∃ value, read? body = some value ∧ related value found) :
    Call.Simulates (Views view groups) related (fetch config peer read? segments) stored := by
  intro remote store views
  obtain ⟨target, isTarget, isOrder⟩ := Option.bind_eq_some_iff.1 isAt
  obtain ⟨url, isLocated, isSent⟩ := Option.bind_eq_some_iff.1 isTarget
  have located : metadataUrl config segments = .ok url := Outcome.toOption_eq_some isLocated
  obtain ⟨reply, next, sent, tells, viewed⟩ :=
    exists_reply serves isSent (show service.read? ⟨.get, target, none⟩ = some order from isOrder)
      url.pathText remote.peer
  rw [views.view] at tells viewed
  simp only [fetch, located, onPeer, sent]
  refine ⟨tells.agree isRun ("GET " ++ url.pathText) fun found ran carries => ?_,
    views.after isRun viewed⟩
  obtain ⟨value, isRead, isRelated⟩ :=
    each store views.isPlain views.groups found ran reply.body carries
  rw [content, isRead]
  exact isRelated

theorem simulates_query (reached : service.IsReached config groups) {request : Request}
    (fits : request.settings.Fits) :
    Call.Simulates (Views view groups) Eq (call config peer "ddf.catalog/query" request.toJson)
      (Store.query request) := by
  have isRead : demandOf? "ddf.catalog/query" request.toJson = some (.query request) := by
    rw [demandOf?, Request.decode_toJson fits]
    rfl
  have isRun : Order.run (.demand (.query request)) = carrying id (Store.query request) := rfl
  refine simulates_call serves reached isRead isRun fun found body carries => ?_
  obtain ⟨reply, isBody, hasResult⟩ := carries
  exact ⟨reply, found, isBody, hasResult, rfl⟩

theorem simulates_create (reached : service.IsReached config groups) (request : Json) :
    Call.Simulates (Views view groups) Eq (call config peer "ddf.catalog/create" request)
      (Store.create request) := by
  have isRead : demandOf? "ddf.catalog/create" request = some (.create request) := rfl
  have isRun : Order.run (.demand (.create request)) = carrying id (Store.create request) := rfl
  refine simulates_call serves reached isRead isRun fun found body carries => ?_
  obtain ⟨reply, isBody, hasResult⟩ := carries
  exact ⟨reply, found, isBody, hasResult, rfl⟩

theorem simulates_delete (reached : service.IsReached config groups) (ids : List String) :
    Call.Simulates (Views view groups) Eq ((backend config peer).delete ids)
      (Store.delete ids) := by
  have isRead : demandOf? "ddf.catalog/delete" (idsJson ids) = some (.delete ids) := by
    rw [demandOf?, idsOf?_idsJson]
    rfl
  have isRun : Order.run (.demand (.delete ids)) =
      carrying (fun _ => .null) (Store.delete ids) := rfl
  have called : Call.Simulates (Views view groups) (fun _ _ => True)
      (call config peer "ddf.catalog/delete" (idsJson ids)) (Store.delete ids) := by
    refine simulates_call serves reached isRead isRun fun found body carries => ?_
    obtain ⟨reply, isBody, result, hasResult⟩ := carries
    exact ⟨reply, result, isBody, hasResult, trivial⟩
  refine called.read (fun _ => .ok ()) (fun remote => ?_) fun _ _ _ _ _ _ _ => rfl
  simp only [backend]
  cases call config peer "ddf.catalog/delete" (idsJson ids) remote with
  | mk outcome next => cases outcome <;> rfl

theorem simulates_sourceIds (reached : service.IsReached config groups) :
    Call.Simulates (Views view groups) Eq (backend config peer).sourceIds Store.sourceIds := by
  have isRead : demandOf? "ddf.catalog/getSourceIds" (.object []) = some .sourceIds := rfl
  have isRun : Order.run (.demand .sourceIds) =
      carrying (fun ids => .array (ids.map .text)) Store.sourceIds := rfl
  have called : Call.Simulates (Views view groups)
      (fun result ids => result = .array (ids.map .text))
      (call config peer "ddf.catalog/getSourceIds" (.object [])) Store.sourceIds := by
    refine simulates_call serves reached isRead isRun fun found body carries => ?_
    obtain ⟨reply, isBody, hasResult⟩ := carries
    exact ⟨reply, _, isBody, hasResult, rfl⟩
  refine called.read (carried (Decode.list Decode.text)) (fun remote => ?_)
    fun _ _ _ _ ids _ isResult => ?_
  · simp only [backend]
    cases call config peer "ddf.catalog/getSourceIds" (.object []) remote
    rfl
  · rw [isResult, carried, Decode.texts]
    rfl

theorem simulates_sourceInfo (reached : service.IsReached config groups) (ids : List String) :
    Call.Simulates (Views view groups) Eq ((backend config peer).sourceInfo ids)
      (Store.sourceInfo ids) := by
  have isRead : demandOf? "ddf.catalog/getSourceInfo" (idsJson ids) = some (.sourceInfo ids) := by
    rw [demandOf?, idsOf?_idsJson]
    rfl
  have isRun : Order.run (.demand (.sourceInfo ids)) =
      carrying sourcesJson (Store.sourceInfo ids) := rfl
  have called : Call.Simulates (Views view groups)
      (fun result sources => result = sourcesJson sources)
      (call config peer "ddf.catalog/getSourceInfo" (idsJson ids)) (Store.sourceInfo ids) := by
    refine simulates_call serves reached isRead isRun fun found body carries => ?_
    obtain ⟨reply, isBody, hasResult⟩ := carries
    exact ⟨reply, _, isBody, hasResult, rfl⟩
  refine called.read sourcesOf (fun remote => ?_)
    fun _ _ views _ sources isFound isResult => ?_
  · simp only [backend]
    cases call config peer "ddf.catalog/getSourceInfo" (idsJson ids) remote
    rfl
  · rw [isResult, sourcesOf_sourcesJson (views.hasPlainDetails isFound)]

theorem simulates_backend (reached : service.IsReached config groups) :
    (backend config peer).Simulates (Views view groups) (fun request => request.settings.Fits)
      Store.backend where
  query := by
    intro request fits
    dsimp only [backend]
    exact simulates_query serves reached fits
  create := by
    intro request
    dsimp only [backend]
    exact simulates_create serves reached request
  update := by
    intro updates
    dsimp only [backend]
    exact simulates_update serves reached updates
  delete := simulates_delete serves reached
  sourceIds := simulates_sourceIds serves reached
  sourceInfo := simulates_sourceInfo serves reached

theorem simulates_attributeGroups (reached : service.IsReached config groups) :
    Call.Simulates (Views view groups)
      (fun found stored => found = stored ∧ ∀ group ∈ found.keys, group ∈ groups)
      (fetch config peer (typed AttributeGroups.read?) ["metacardtype"])
      Store.metadata.attributeGroups := by
  have isRun : Order.attributeGroups.run =
      carrying AttributeGroups.toJson Store.metadata.attributeGroups := rfl
  refine simulates_fetch serves reached.attributeGroups isRun
    fun store plain isKnown found isFound body carries => ?_
  obtain rfl : store.groups = found := Except.ok.inj isFound
  obtain ⟨document, shows, writes⟩ := carries
  have isRead := AttributeGroups.read?_eq_some_iff.2
    (AttributeGroups.isTable_of_writes plain.types writes)
  refine ⟨store.groups, Body.typed_eq_some_iff.2 ⟨document, shows, isRead⟩, rfl, ?_⟩
  exact fun group member => isKnown ▸ member

theorem simulates_groupEnumerations (reached : service.IsReached config groups) {group : String}
    (isKnown : group ∈ groups) :
    Call.Simulates (Views view groups) Eq
      (fetch config peer (typed Enumerations.read?) ["enumerations", "metacardtype", group])
      (Store.metadata.groupEnumerations group) := by
  have isRun : (Order.groupEnumerations group).run =
      carrying Enumerations.toJson (Store.metadata.groupEnumerations group) := rfl
  refine simulates_fetch serves (reached.groupEnumerations group isKnown) isRun
    fun _ _ _ found _ body carries => ?_
  obtain ⟨document, shows, writes⟩ := carries
  have isRead := Enumerations.read?_eq_some_iff.2 (Enumerations.isTable_of_writes writes)
  exact ⟨found, Body.typed_eq_some_iff.2 ⟨document, shows, isRead⟩, rfl⟩

theorem simulates_enumerationConfig (reached : service.IsReached config groups) :
    Call.Simulates (Views view groups) Eq (metadata config peer).enumerationConfig
      Store.metadata.enumerationConfig := by
  have isRun : Order.enumerationConfig.run =
      carrying Enumerations.toJson Store.metadata.enumerationConfig := rfl
  have fetched : Call.Simulates (Views view groups)
      (fun config enumerations => config.member? "enums" = some enumerations.toJson)
      (fetch config peer Body.value? ["config"]) Store.metadata.enumerationConfig := by
    refine simulates_fetch serves reached.enumerationConfig isRun
      fun _ _ _ found _ body carries => ?_
    obtain ⟨answer, isBody, isMember⟩ := carries
    exact ⟨answer, Body.value?_eq_some_iff.2 isBody, isMember⟩
  refine fetched.read enumerationsOf (fun remote => ?_) fun _ _ _ answer found _ isMember => ?_
  · simp only [metadata]
    cases fetch config peer Body.value? ["config"] remote
    rfl
  · have notNull : (some found.toJson).filter (!·.isNull) = some found.toJson := rfl
    rw [enumerationsOf, isMember, notNull]
    simp only [carried, Enumerations.decode_toJson]
    rfl

theorem simulates_localCatalogId (reached : service.IsReached config groups) :
    Call.Simulates (Views view groups) Eq (metadata config peer).localCatalogId
      Store.metadata.localCatalogId := by
  have isRun : Order.localCatalogId.run = carrying .text Store.metadata.localCatalogId := rfl
  have fetched : Call.Simulates (Views view groups)
      (fun reply id => reply.member? "local-catalog-id" = some (.text id))
      (fetch config peer Body.value? ["localcatalogid"]) Store.metadata.localCatalogId := by
    refine simulates_fetch serves reached.localCatalogId isRun
      fun _ _ _ found _ body carries => ?_
    obtain ⟨answer, isBody, isMember⟩ := carries
    exact ⟨answer, Body.value?_eq_some_iff.2 isBody, isMember⟩
  refine fetched.read localIdOf (fun remote => ?_) fun _ _ _ answer found _ isMember => ?_
  · simp only [metadata]
    cases fetch config peer Body.value? ["localcatalogid"] remote
    rfl
  · rw [localIdOf, isMember]
    rfl

theorem simulates_metadata (reached : service.IsReached config groups) :
    (metadata config peer).Simulates (Views view groups) (· ∈ groups) Store.metadata where
  attributeGroups := by
    dsimp only [metadata]
    exact simulates_attributeGroups serves reached
  enumerationConfig := simulates_enumerationConfig serves reached
  groupEnumerations := by
    intro group isKnown
    dsimp only [metadata]
    exact simulates_groupEnumerations serves reached isKnown
  localCatalogId := simulates_localCatalogId serves reached

end

end Remote

end Http

/-! ## Whole sessions -/

open Http

def Deployment.remote (config : Config) (peer : Peer σ) : Deployment (Remote σ) where
  backend := Remote.backend config peer
  metadata := Remote.metadata config peer
  config := config

/-- The numbers that a lookup sends are integers of 64 bits. -/
def Errand.Fits (config : Config) : Errand → Prop
  | .look lookup => (lookup.settings config).Fits
  | .create _ | .save _ _ _ | .delete _ | .sources | .refresh => True

instance (config : Config) : DecidablePred (Errand.Fits config)
  | .look lookup => inferInstanceAs (Decidable (lookup.settings config).Fits)
  | .create _ | .save _ _ _ | .delete _ | .sources | .refresh => inferInstanceAs (Decidable True)

/-- A session over the network and one with the catalog itself: each call has the same answer, but
for the time of a save and for the reasons in a report, or fails with a failure of the same kind;
before each call and at the end, the clients have the same schema in the same version and the same
measures, and the catalogs are the same. -/
structure SameSessions (view : σ → Store) (remote : List (Made (Remote σ)) × Client (Remote σ))
    (direct : List (Made Store) × Client Store) : Prop where
  calls : List.Forall₂ (fun call other =>
    Outcome.Agree (fun answer others => call.errand.stripped answer = call.errand.stripped others)
        call.outcome other.outcome ∧
      call.client.registry = other.client.registry ∧
      call.client.meter = other.client.meter ∧
      view call.client.catalog.peer = other.client.catalog) remote.1 direct.1
  registry : remote.2.registry = direct.2.registry
  meter : remote.2.meter = direct.2.meter
  catalog : view remote.2.catalog.peer = direct.2.catalog

section

variable {peer : Peer σ} {service : Service} {view : σ → Store} {config : Config}
  {groups : List String}

theorem Deployment.simulates_remote (serves : peer.Serves service view)
    (reached : service.IsReached config groups) :
    (remote config peer).Simulates (Remote.Views view groups)
      (fun request => request.settings.Fits) (· ∈ groups) (.inMemory Store.metadata config) where
  backend := Remote.simulates_backend serves reached
  metadata := Remote.simulates_metadata serves reached
  config := rfl

/-- Clients of a catalog over the network and of the catalog itself cannot be told apart by the same
errands, whenever they are done. -/
theorem Errand.transports_agree (serves : peer.Serves service view) {start : σ}
    (isPlain : (view start).IsPlain)
    (reached : service.IsReached config (view start).groups.keys) {errands others : List Errand}
    (fits : ∀ errand ∈ errands, errand.Fits config)
    (same : errands.map withoutTime = others.map withoutTime) :
    SameSessions view (performAll (.remote config peer) errands (.new (.new start)))
      (performAll (.inMemory Store.metadata config) others (.new (view start))) := by
  have alike : (Client.new (Remote.new start)).Alike
      (Remote.Views view (view start).groups.keys) (Client.new (view start)) :=
    ⟨rfl, rfl, rfl, isPlain, rfl⟩
  have sameErrands : List.Forall₂
      (fun errand other => withoutTime errand = withoutTime other) errands others := by
    have mapped : List.Forall₂ Eq (errands.map withoutTime) (others.map withoutTime) := by
      rw [List.forall₂_eq_eq_eq]
      exact same
    exact List.forall₂_map_right_iff.1 (List.forall₂_map_left_iff.1 mapped)
  have sends : ∀ errand ∈ errands, ∀ lookup, errand = .look lookup → ∀ request,
      lookup.request? config = some (.ok request) → request.settings.Fits := by
    rintro errand member lookup rfl request isRequest
    obtain ⟨criterion, -, assembled⟩ := Option.map_eq_some_iff.1 isRequest
    rw [(Request.assemble_eq_ok_iff.1 assembled).2.2]
    exact fits _ member
  obtain ⟨calls, last⟩ :=
    simulates_performAll (Deployment.simulates_remote serves reached) sameErrands sends alike
  refine ⟨calls.imp fun call other agree => ?_, last.registry, last.meter, last.catalog.view⟩
  exact ⟨agree.outcome, agree.client.registry, agree.client.meter, agree.client.catalog.view⟩

end

def Service.standard : Service where
  calls := "/direct"
  updates := "/search/catalog/internal/metacards"
  attributeGroups := "/search/catalog/internal/metacardtype"
  enumerationConfig := "/search/catalog/internal/config"
  enumerations := "/search/catalog/internal/enumerations/metacardtype"
  localCatalogId := "/search/catalog/internal/localcatalogid"

/-- A catalog with two groups, of which one has no enumerations to be had, a source and a
metacard. -/
def Store.stocked : Store :=
  ((((Store.empty.withGroup "basic" [.plain "title" .string]).withGroup "my group"
    [.plain "location" (.ofRaw "LOCATION")]).withFailingGroup "my group").withSource "archive"
      (.object [("version", .text "1.0")])).withMetacard
        (.object [("id", .text "1"), ("title", .text "One")])

theorem Service.isReached_standard :
    standard.IsReached .standard Store.stocked.groups.keys where
  calls := by decide +kernel
  updates := by decide +kernel
  attributeGroups := by decide +kernel
  enumerationConfig := by decide +kernel
  groupEnumerations := by decide +kernel
  localCatalogId := by decide +kernel

theorem Store.isPlain_stocked : stocked.IsPlain where
  types := by decide +kernel
  details := by decide +kernel

/-- A client asks for the schema, saves a metacard that is not there and one that is, looks for
all and for one, makes one, removes one and asks for the sources; the same is done later with the
catalog itself. -/
theorem Errand.transports_agree_stocked :
    let errands (now : String) : List Errand := [.refresh,
      .save now "2" (.ofList [("title", .text "Two")]),
      .save now "1" (.ofList [("title", .text "First")]),
      .look (.query (.tree .matchAll) (Settings.unset.withCount 10)),
      .look (.metacardById "1" .unset), .create (.ofList [("title", .text "Other")]), .delete "1",
      .sources]
    SameSessions id
      (performAll (.remote .standard Service.standard.peer)
        (errands "2026-01-01T00:00:00Z") (.new (.new Store.stocked)))
      (performAll (.inMemory Store.metadata .standard)
        (errands "2026-01-02T00:00:00Z") (.new Store.stocked)) :=
  transports_agree Service.standard.serves_peer Store.isPlain_stocked Service.isReached_standard
    (by decide +kernel) rfl

end Metacard
