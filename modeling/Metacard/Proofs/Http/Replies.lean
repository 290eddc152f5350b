import Metacard.Http.Script
import Metacard.Proofs.Http.Transport
/-!
# Replies that are accepted

An operation over the network succeeds exactly when a reply comes that is a success by its status
and carries what the operation gives, and then it gives what the reply carries. With any other
reply, and without one, it fails as a request or because data cannot be read. In the reply to a
remote call an error goes before a result.
-/

set_option autoImplicit false

namespace Metacard.Http

variable {σ α β : Type}

/-- An outcome succeeds with just the values that are given, and fails as a request or because data
cannot be read. -/
structure Yields (outcome : Except Failure α) (Gives : α → Prop) : Prop where
  succeeds : ∀ value, outcome = .ok value ↔ Gives value
  fails : ∀ failure, outcome = .error failure →
    failure.kind = "backend_request_failed" ∨ failure.kind = "serialization"

namespace Yields

theorem ok (value : α) : Yields (.ok value : Except Failure α) (value = ·) where
  succeeds := fun _ => ⟨Except.ok.inj, congrArg Except.ok⟩
  fails := fun _ failed => nomatch failed

theorem error {failure : Failure} {Gives : α → Prop}
    (isKind : failure.kind = "backend_request_failed" ∨ failure.kind = "serialization")
    (nothing : ∀ value, ¬ Gives value) : Yields (.error failure) Gives where
  succeeds := fun value => ⟨nofun, fun given => absurd given (nothing value)⟩
  fails := by
    intro other same
    rw [← Except.error.inj same]
    exact isKind

theorem congr {outcome : Except Failure α} {Gives Others : α → Prop}
    (yields : Yields outcome Gives) (same : ∀ value, Gives value ↔ Others value) :
    Yields outcome Others where
  succeeds := fun value => (yields.succeeds value).trans (same value)
  fails := yields.fails

theorem bind {outcome : Except Failure α} {Gives : α → Prop} (yields : Yields outcome Gives)
    {next : α → Except Failure β} {Others : α → β → Prop}
    (each : ∀ value, Yields (next value) (Others value)) :
    Yields (outcome >>= next) (fun result => ∃ value, Gives value ∧ Others value result) where
  succeeds := by
    intro result
    constructor
    · intro succeeds
      obtain ⟨value, isValue, isResult⟩ := Outcome.bind_eq_ok succeeds
      exact ⟨value, (yields.succeeds value).1 isValue, ((each value).succeeds result).1 isResult⟩
    · rintro ⟨value, gives, others⟩
      rw [(yields.succeeds value).2 gives]
      exact ((each value).succeeds result).2 others
  fails := by
    intro failure failed
    cases outcome with
    | error other => exact yields.fails failure (congrArg Except.error (Except.error.inj failed))
    | ok value => exact (each value).fails failure failed

theorem mapError (outcome : Except DataFault α) (toFailure : DataFault → Failure)
    (isKind : ∀ fault, (toFailure fault).kind = "backend_request_failed" ∨
      (toFailure fault).kind = "serialization") :
    Yields (outcome.mapError toFailure) (fun value => outcome = .ok value) := by
  cases outcome with
  | ok value => exact (Yields.ok value).congr fun found => Except.ok.injEq value found ▸ Iff.rfl
  | error fault => exact .error (isKind fault) fun value => nofun

end Yields

/-! ## What replies carry -/

def Succeeds (reply? : Option Reply) (reply : Reply) : Prop :=
  reply? = some reply ∧ 200 ≤ reply.status ∧ reply.status < 300

/-- There is a reply that is a success, and its body carries the value. -/
def Accepts (reply? : Option Reply) (Carries : Body → α → Prop) (value : α) : Prop :=
  ∃ reply, Succeeds reply? reply ∧ Carries reply.body value

/-- The reply to a remote call with a result that the value is read off, and with no error, or with
null for one. -/
def CarriesResult (Carries : Json → α → Prop) (body : Body) (value : α) : Prop :=
  ∃ reply result, body.Carries reply ∧ Order.HasResult reply result ∧ Carries result value

def CarriesSources (result : Json) (sources : List SourceInfo) : Prop :=
  ∃ items, result.member? "sourceInfo" = some (.array items) ∧ List.Forall₂
    (fun item source => ∃ members, item = .object members ∧ source.HasMembers members)
      items sources

/-- The enumerations in a member of their own; without the member, or with null in it, none. -/
def HasEnumerations (config : Json) (enumerations : Enumerations) : Prop :=
  (∀ found, config.member? "enums" = some found → found = .null) ∧ enumerations = .empty ∨
    ∃ entries : List (String × List String),
      config.member? "enums" =
          some (.object (entries.map fun entry => (entry.1, .array (entry.2.map .text)))) ∧
        enumerations = .ofList entries

/-- The document of a body is of the kind that is asked for, with this in it. -/
def CarriesTyped (Is : Document → α → Prop) (body : Body) (value : α) : Prop :=
  ∃ document, body.Shows document ∧ Is document value

namespace Remote

theorem isSuccess_iff (status : Nat) :
    isSuccess status = true ↔ 200 ≤ status ∧ status < 300 := by
  rw [isSuccess, Bool.and_eq_true, decide_eq_true_eq, decide_eq_true_eq]

theorem filter_notNull_eq_some_iff {member? : Option Json} {found : Json} :
    member?.filter (!·.isNull) = some found ↔ member? = some found ∧ found ≠ .null := by
  rw [Option.filter_eq_some_iff]
  cases found <;> simp [Json.isNull]

theorem filter_notNull_eq_none_iff {member? : Option Json} :
    member?.filter (!·.isNull) = none ↔ ∀ found, member? = some found → found = .null := by
  rw [Option.filter_eq_none_iff]
  refine forall₂_congr fun found _ => ?_
  cases found <;> simp [Json.isNull]

theorem yields_accepted (name : String) (reply : Reply) :
    Yields (accepted name reply) (Succeeds (some reply)) := by
  rw [accepted]
  by_cases isSuccess : isSuccess reply.status
  · rw [if_pos isSuccess]
    refine (Yields.ok reply).congr fun found => ?_
    constructor
    · rintro rfl
      exact ⟨rfl, (isSuccess_iff reply.status).1 isSuccess⟩
    · exact fun succeeds => Option.some.inj succeeds.1
  · rw [if_neg isSuccess]
    refine .error (.inl rfl) fun found succeeds => isSuccess ?_
    rw [Option.some.inj succeeds.1]
    exact (isSuccess_iff found.status).2 succeeds.2

theorem yields_content (read? : Body → Option α) (name : String) (reply : Reply) :
    Yields (content read? name reply) (read? reply.body = some ·) := by
  rw [content]
  cases read? reply.body with
  | none => exact .error (.inl rfl) fun value => (Option.some_ne_none value).symm
  | some value => exact (Yields.ok value).congr fun found => Option.some_inj.symm

theorem yields_carried (decoder : Decoder α) (found : Json) :
    Yields (carried decoder found) (fun value => decoder found = .ok value) :=
  .mapError (decoder found) _ fun _ => .inr rfl

theorem yields_resultOf (method : String) (reply : Json) :
    Yields (resultOf method reply) (Order.HasResult reply) := by
  cases isError : (reply.member? "error").filter (!·.isNull) with
  | some error =>
    obtain ⟨isMember, notNull⟩ := filter_notNull_eq_some_iff.1 isError
    rw [resultOf, isError]
    exact .error (.inl rfl) fun result hasResult => notNull (hasResult.noError error isMember)
  | none =>
    have noError := filter_notNull_eq_none_iff.1 isError
    rw [resultOf, isError]
    cases isResult : reply.member? "result" with
    | none =>
      refine .error (.inl rfl) fun result hasResult => ?_
      exact Option.some_ne_none result (hasResult.result.symm.trans isResult)
    | some result =>
      refine (Yields.ok result).congr fun found => ?_
      constructor
      · rintro rfl
        exact ⟨isResult, noError⟩
      · intro hasResult
        exact Option.some.inj (isResult.symm.trans hasResult.result)

theorem yields_sourcesOf (result : Json) : Yields (sourcesOf result) (CarriesSources result) := by
  rw [sourcesOf]
  cases isMember : result.member? "sourceInfo" with
  | none => exact .error (.inl rfl) fun sources => by simp [CarriesSources, isMember]
  | some found =>
    refine (yields_carried _ found).congr fun sources => ?_
    simp only [Decode.list_eq_ok_iff, SourceInfo.decode_eq_ok_iff, CarriesSources, isMember,
      Option.some.injEq]

theorem yields_enumerationsOf (config : Json) :
    Yields (enumerationsOf config) (HasEnumerations config) := by
  cases isSet : (config.member? "enums").filter (!·.isNull) with
  | some found =>
    obtain ⟨isMember, notNull⟩ := filter_notNull_eq_some_iff.1 isSet
    rw [enumerationsOf, isSet]
    exact (yields_carried Enumerations.decode found).congr fun enumerations => by
      simp [HasEnumerations, isMember, notNull, Enumerations.decode_eq_ok_iff]
  | none =>
    have unset := filter_notNull_eq_none_iff.1 isSet
    rw [enumerationsOf, isSet]
    refine (Yields.ok Table.empty).congr fun enumerations => ?_
    constructor
    · rintro rfl
      exact .inl ⟨unset, rfl⟩
    · rintro (⟨_, rfl⟩ | ⟨entries, isMember, _⟩)
      · rfl
      · cases unset _ isMember

theorem yields_localIdOf (reply : Json) :
    Yields (localIdOf reply)
      (fun id => reply.member? "local-catalog-id" = some (.text id)) := by
  rw [localIdOf]
  cases isMember : reply.member? "local-catalog-id" with
  | none => exact .error (.inl rfl) fun id => (Option.some_ne_none _).symm
  | some found =>
    cases found with
    | text id => exact (Yields.ok id).congr fun other => by simp
    | null | boolean | number | array | object =>
      exact .error (.inl rfl) fun id => by simp

/-- The reply of a peer to a message, if there is a target that it is sent to and the peer is
reached. -/
def reply? (peer : Peer σ) (method : Method) (target? : Option String) (body : Option Json)
    (state : σ) : Option Reply :=
  target?.bind fun target => (peer.answer ⟨method, target, body⟩ state).1

theorem yields_send (peer : Peer σ) (name : String) (method : Method) (url : Url)
    (body : Option Json) (state : σ) :
    Yields (send peer name method url body state).1
      (reply? peer method url.sentTo? body state = some ·) := by
  rw [send, Url.sentTo?]
  by_cases isRequestable : url.withoutCredentials.isRequestable
  · simp only [isRequestable, if_true, reply?, Option.bind_some]
    cases answered : peer.answer ⟨method, url.withoutCredentials.target, body⟩ state with
    | mk reply next =>
      cases reply with
      | none => exact .error (.inl rfl) fun found => (Option.some_ne_none found).symm
      | some reply => exact (Yields.ok reply).congr fun found => Option.some_inj.symm
  · simp only [isRequestable]
    exact .error (.inl rfl) fun found => (Option.some_ne_none found).symm

theorem yields_sendTo (peer : Peer σ) (name : String) (method : Method) (address : String)
    (body : Option Json) (state : σ) :
    Yields (sendTo peer name method address body state).1
      (reply? peer method (Url.targetOf? address) body state = some ·) := by
  rw [sendTo, Url.targetOf?]
  cases Url.parse address with
  | error fault => exact .error (.inl rfl) fun found => (Option.some_ne_none found).symm
  | ok url => exact yields_send peer name method url body state

theorem yields_body {outcome : Except Failure Reply} {reply? : Option Reply}
    (sent : Yields outcome (reply? = some ·)) (status name : String) (read? : Body → Option α) :
    Yields (outcome >>= accepted status >>= content read? name)
      (Accepts reply? fun body value => read? body = some value) := by
  have body := (sent.bind (yields_accepted status)).bind (yields_content read? name)
  refine body.congr fun value => ?_
  constructor
  · rintro ⟨reply, ⟨_, isReply, same, success⟩, isRead⟩
    obtain rfl := Option.some.inj same
    exact ⟨_, ⟨isReply, success⟩, isRead⟩
  · rintro ⟨reply, ⟨isReply, success⟩, isRead⟩
    exact ⟨reply, ⟨reply, isReply, rfl, success⟩, isRead⟩

theorem yields_value {outcome : Except Failure β} {reply? : Option Reply} {read? : Body → Option β}
    (yields : Yields outcome (Accepts reply? fun body value => read? body = some value))
    {read : β → Except Failure α} {Gives : β → α → Prop}
    (each : ∀ value, Yields (read value) (Gives value)) :
    Yields (outcome >>= read) (Accepts reply? fun body result =>
      ∃ value, read? body = some value ∧ Gives value result) := by
  refine (yields.bind each).congr fun result => ?_
  constructor
  · rintro ⟨value, ⟨reply, success, isRead⟩, gives⟩
    exact ⟨reply, success, value, isRead, gives⟩
  · rintro ⟨reply, success, value, isRead, gives⟩
    exact ⟨value, ⟨reply, success, isRead⟩, gives⟩

section

variable (config : Config) (peer : Peer σ) (remote : Remote σ)

def callReply? (method : String) (params : Json) : Option Reply :=
  reply? peer .post (Url.targetOf? config.rpcUrl) (some (envelope remote.nextId method params))
    remote.peer

def updateReply? (updates : List MetacardUpdate) : Option Reply :=
  reply? peer .patch (Url.targetOf? (config.endpoint "/metacards"))
    (some (.array (updates.map MetacardUpdate.toJson))) remote.peer

def metadataReply? (segments : List String) : Option Reply :=
  reply? peer .get ((metadataUrl config segments).toOption.bind Url.sentTo?) none remote.peer

/-! ## Remote calls -/

theorem call_eq (method : String) (params : Json) :
    (call config peer method params remote).1 =
      ((sendTo peer method .post config.rpcUrl (some (envelope remote.nextId method params))
        remote.peer).1 >>= accepted method >>= content Body.value? method >>=
          resultOf method) := by
  cases sent : sendTo peer method .post config.rpcUrl
      (some (envelope remote.nextId method params)) remote.peer with
  | mk reply next =>
    simp only [call, onPeer, sent, bind_assoc]
    rfl

/-- The outcome of a remote call is what is read off the result of the reply. An error in the reply
is told with its code and its message, whatever result stands beside it. -/
structure AnswersCall (method : String) (params : Json) (outcome : Except Failure α)
    (Carries : Json → α → Prop) : Prop where
  yields : Yields outcome
    (Accepts (callReply? config peer remote method params) (CarriesResult Carries))
  errorFirst : ∀ reply answer error, Succeeds (callReply? config peer remote method params) reply →
    reply.body.Carries answer → answer.member? "error" = some error → error ≠ .null →
      outcome = .error (.request (.callFailed method (errorCode error)
        (((error.member? "message").bind Json.text?).getD "unknown error")))

theorem answersCall (method : String) (params : Json) {read : Json → Except Failure α}
    {Carries : Json → α → Prop} (each : ∀ result, Yields (read result) (Carries result)) :
    AnswersCall config peer remote method params
      ((call config peer method params remote).1 >>= read) Carries := by
  have sent := yields_sendTo peer method .post config.rpcUrl
    (some (envelope remote.nextId method params)) remote.peer
  rw [call_eq]
  constructor
  · rw [bind_assoc]
    have answered := yields_value (yields_body sent method method Body.value?) fun answer =>
      (yields_resultOf method answer).bind each
    refine answered.congr fun value => ?_
    simp only [Accepts, CarriesResult, Body.value?_eq_some_iff, ← exists_and_left]
    exact Iff.rfl
  · rintro reply answer error ⟨isReply, success⟩ isBody isError notNull
    have isSent := (sent.succeeds reply).2 isReply
    have isAccepted := ((yields_accepted method reply).succeeds reply).2 ⟨rfl, success⟩
    have isContent := ((yields_content Body.value? method reply).succeeds answer).2
      (Body.value?_eq_some_iff.2 isBody)
    have isTold := filter_notNull_eq_some_iff.2 ⟨isError, notNull⟩
    rw [isSent]
    simp only [bind, Except.bind, isAccepted, isContent, resultOf, isTold]

theorem kind_of_metadataUrl_failed {config : Config} {segments : List String} {failure : Failure}
    (failed : metadataUrl config segments = .error failure) :
    failure.kind = "backend_request_failed" := by
  rw [metadataUrl] at failed
  split at failed
  · rw [← Except.error.inj failed]
    rfl
  · split at failed
    · exact nomatch failed
    · rw [← Except.error.inj failed]
      rfl

theorem yields_fetch (read? : Body → Option α) (segments : List String) :
    Yields (fetch config peer read? segments remote).1
      (Accepts (metadataReply? config peer remote segments)
        fun body value => read? body = some value) := by
  rw [fetch, metadataReply?]
  cases located : metadataUrl config segments with
  | error failure =>
    refine .error (.inl (kind_of_metadataUrl_failed located)) ?_
    rintro value ⟨reply, ⟨isReply, _⟩, _⟩
    exact Option.some_ne_none reply isReply.symm
  | ok url =>
    have sent := yields_send peer url.pathText .get url none remote.peer
    have read := yields_body sent ("GET " ++ url.pathText) url.pathText read?
    simp only [bind_assoc] at read
    exact read

theorem yields_typed {read? : Document → Option α} {Is : Document → α → Prop}
    (each : ∀ {document value}, read? document = some value ↔ Is document value)
    (segments : List String) :
    Yields (fetch config peer (typed read?) segments remote).1
      (Accepts (metadataReply? config peer remote segments) (CarriesTyped Is)) := by
  refine (yields_fetch config peer remote (typed read?) segments).congr fun value => ?_
  simp only [Accepts, CarriesTyped, Body.typed_eq_some_iff, each]

theorem yields_fetched (segments : List String) {read : Json → Except Failure α}
    {Gives : Json → α → Prop} (each : ∀ found, Yields (read found) (Gives found)) :
    Yields ((fetch config peer Body.value? segments remote).1 >>= read)
      (Accepts (metadataReply? config peer remote segments)
        fun body value => ∃ found, body.Carries found ∧ Gives found value) := by
  have fetched := yields_fetch config peer remote Body.value? segments
  refine (yields_value fetched each).congr fun value => ?_
  simp only [Accepts, Body.value?_eq_some_iff]

/-- For each operation, the replies that it succeeds with and what it gives for them. -/
structure ReadsReplies : Prop where
  query : ∀ request, AnswersCall config peer remote "ddf.catalog/query" request.toJson
    ((backend config peer).query request remote).1 Eq
  create : ∀ request, AnswersCall config peer remote "ddf.catalog/create" request
    ((backend config peer).create request remote).1 Eq
  update : ∀ updates, Yields ((backend config peer).update updates remote).1
    fun _ => ∃ reply, Succeeds (updateReply? config peer remote updates) reply
  delete : ∀ ids, AnswersCall config peer remote "ddf.catalog/delete" (idsJson ids)
    ((backend config peer).delete ids remote).1 fun _ _ => True
  sourceIds : AnswersCall config peer remote "ddf.catalog/getSourceIds" (.object [])
    ((backend config peer).sourceIds remote).1 fun result ids => result = .array (ids.map .text)
  sourceInfo : ∀ ids, AnswersCall config peer remote "ddf.catalog/getSourceInfo" (idsJson ids)
    ((backend config peer).sourceInfo ids remote).1 CarriesSources
  attributeGroups : Yields ((metadata config peer).attributeGroups remote).1
    (Accepts (metadataReply? config peer remote ["metacardtype"])
      (CarriesTyped (Document.IsTable (Document.IsTable Document.IsAttribute))))
  enumerationConfig : Yields ((metadata config peer).enumerationConfig remote).1
    (Accepts (metadataReply? config peer remote ["config"])
      fun body enumerations => ∃ found, body.Carries found ∧ HasEnumerations found enumerations)
  groupEnumerations : ∀ group, Yields ((metadata config peer).groupEnumerations group remote).1
    (Accepts (metadataReply? config peer remote ["enumerations", "metacardtype", group])
      (CarriesTyped (Document.IsTable fun document values => document = .ofTexts values)))
  localCatalogId : Yields ((metadata config peer).localCatalogId remote).1
    (Accepts (metadataReply? config peer remote ["localcatalogid"])
      fun body id => ∃ found, body.Carries found ∧
        found.member? "local-catalog-id" = some (.text id))

theorem update_eq (updates : List MetacardUpdate) :
    (update config peer updates remote).1 =
      ((sendTo peer "PATCH /metacards" .patch (config.endpoint "/metacards")
        (some (.array (updates.map MetacardUpdate.toJson))) remote.peer).1 >>=
          accepted "PATCH /metacards" >>= fun _ => .ok ()) := by
  cases sent : sendTo peer "PATCH /metacards" .patch (config.endpoint "/metacards")
      (some (.array (updates.map MetacardUpdate.toJson))) remote.peer with
  | mk reply next =>
    simp only [update, onPeer, sent]
    cases reply with
    | error failure => rfl
    | ok reply =>
      simp only [bind, Except.bind]
      cases accepted "PATCH /metacards" reply <;> rfl

theorem yields_update (updates : List MetacardUpdate) :
    Yields ((backend config peer).update updates remote).1
      fun _ => ∃ reply, Succeeds (updateReply? config peer remote updates) reply := by
  have sent := yields_sendTo peer "PATCH /metacards" .patch (config.endpoint "/metacards")
    (some (.array (updates.map MetacardUpdate.toJson))) remote.peer
  have read := (sent.bind (yields_accepted "PATCH /metacards")).bind fun _ => Yields.ok ()
  dsimp only [backend]
  rw [update_eq]
  refine read.congr fun _ => ?_
  constructor
  · rintro ⟨_, ⟨reply, isReply, same, success⟩, _⟩
    obtain rfl := Option.some.inj same
    exact ⟨reply, isReply, success⟩
  · rintro ⟨reply, isReply, success⟩
    exact ⟨reply, ⟨reply, isReply, rfl, success⟩, rfl⟩

theorem answers_call (method : String) (params : Json) :
    AnswersCall config peer remote method params (call config peer method params remote).1 Eq := by
  have answers := answersCall config peer remote method params Yields.ok
  rwa [show ((call config peer method params remote).1 >>= Except.ok) = _ from bind_pure _]
    at answers

theorem answers_delete (ids : List String) :
    AnswersCall config peer remote "ddf.catalog/delete" (idsJson ids)
      ((backend config peer).delete ids remote).1 fun _ _ => True := by
  have nothing : ∀ _ : Json, Yields (.ok () : Except Failure Unit) fun _ => True := fun _ =>
    (Yields.ok ()).congr fun _ => by simp
  have answers := answersCall config peer remote "ddf.catalog/delete" (idsJson ids) nothing
  dsimp only [backend]
  cases called : call config peer "ddf.catalog/delete" (idsJson ids) remote with
  | mk outcome next =>
    rw [called] at answers
    cases outcome <;> exact answers

theorem answers_sourceIds :
    AnswersCall config peer remote "ddf.catalog/getSourceIds" (.object [])
      ((backend config peer).sourceIds remote).1
        fun result ids => result = .array (ids.map .text) := by
  dsimp only [backend]
  exact answersCall config peer remote "ddf.catalog/getSourceIds" (.object []) fun result =>
    (yields_carried (Decode.list Decode.text) result).congr fun _ => Decode.texts_eq_ok_iff

theorem answers_sourceInfo (ids : List String) :
    AnswersCall config peer remote "ddf.catalog/getSourceInfo" (idsJson ids)
      ((backend config peer).sourceInfo ids remote).1 CarriesSources := by
  dsimp only [backend]
  exact answersCall config peer remote "ddf.catalog/getSourceInfo" (idsJson ids) yields_sourcesOf

/-- Whatever a peer replies, and whether it replies at all, each operation succeeds with just the
replies that carry what it gives. -/
theorem reads_replies : ReadsReplies config peer remote where
  query := by
    intro request
    dsimp only [backend]
    exact answers_call config peer remote "ddf.catalog/query" request.toJson
  create := by
    intro request
    dsimp only [backend]
    exact answers_call config peer remote "ddf.catalog/create" request
  update := yields_update config peer remote
  delete := answers_delete config peer remote
  sourceIds := answers_sourceIds config peer remote
  sourceInfo := answers_sourceInfo config peer remote
  attributeGroups := by
    dsimp only [metadata]
    exact yields_typed config peer remote AttributeGroups.read?_eq_some_iff ["metacardtype"]
  enumerationConfig := by
    dsimp only [metadata]
    exact yields_fetched config peer remote ["config"] yields_enumerationsOf
  groupEnumerations := by
    intro group
    dsimp only [metadata]
    exact yields_typed config peer remote Enumerations.read?_eq_some_iff
      ["enumerations", "metacardtype", group]
  localCatalogId := by
    dsimp only [metadata]
    exact yields_fetched config peer remote ["localcatalogid"] yields_localIdOf

end

def told (line text : String) : Remote Script :=
  .new ⟨true, [(line, .ofText 200 text)], []⟩

/-- A number out of range is passed over where nothing is read off it. -/
def attributeTold : Remote Script :=
  told "GET /search/catalog/internal/metacardtype"
    ("\x7b\"basic\": \x7b\"t\":" ++
      "\x7b\"id\": \"t\", \"type\": \"DATE\", \"width\": 1e999\x7d\x7d\x7d")

/-- The member of an attribute must not be repeated. -/
def attributeRepeated : Remote Script :=
  told "GET /search/catalog/internal/metacardtype"
    ("\x7b\"basic\": \x7b\"t\": [\"t\", \"DATE\"]," ++
      "\"u\": \x7b\"id\": 1, \"id\": \"u\", \"type\": \"XML\"\x7d\x7d\x7d")

def sourcesTold : Remote Script :=
  told "POST /direct"
    ("\x7b\"error\": null, \"result\":" ++
      "\x7b\"sourceInfo\": [\x7b\"id\": \"s\", \"version\": 2\x7d]\x7d\x7d")

theorem reads_replies_told :
    Accepts (metadataReply? .standard Script.peer attributeTold ["metacardtype"])
        (CarriesTyped (Document.IsTable (Document.IsTable Document.IsAttribute)))
        (.ofList [("basic", .ofList [("t", .plain "t" .date)])]) ∧
      (∀ groups, ¬ Accepts (metadataReply? .standard Script.peer attributeRepeated ["metacardtype"])
        (CarriesTyped (Document.IsTable (Document.IsTable Document.IsAttribute))) groups) ∧
      Accepts (callReply? .standard Script.peer sourcesTold "ddf.catalog/getSourceInfo"
          (idsJson ["s"]))
        (CarriesResult CarriesSources) [⟨"s", false, .ofList [("version", .natural 2)]⟩] := by
  refine ⟨?_, ?_, ?_⟩
  · apply ((reads_replies .standard Script.peer attributeTold).attributeGroups.succeeds _).1
    decide +kernel
  · intro groups accepts
    have read := (reads_replies .standard Script.peer attributeRepeated).attributeGroups
    have refused : ((metadata .standard Script.peer).attributeGroups attributeRepeated).1 =
        .error (exchangeFailure "/search/catalog/internal/metacardtype" .unreadable) := by
      decide +kernel
    exact nomatch refused.symm.trans ((read.succeeds groups).2 accepts)
  · apply (((reads_replies .standard Script.peer sourcesTold).sourceInfo ["s"]).yields.succeeds _).1
    decide +kernel

/-- Null is a result, and null is no error. -/
example : ((backend .standard Script.peer).delete ["1"] (.new ⟨true, [("POST /direct",
    .ofText 204 "\x7b\"error\": null, \"result\": null\x7d")], []⟩)).1 = .ok () := by
  decide +kernel

end Remote

end Metacard.Http
