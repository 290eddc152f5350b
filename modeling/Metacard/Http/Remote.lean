import Metacard.Catalog.Basic
import Metacard.Config
/-!
# Catalogs over the network

    POST  {base}{rpc path}                               JSON-RPC 2.0
      ddf.catalog/query          a query request
      ddf.catalog/create         a create request
      ddf.catalog/delete         {"ids": [...]}
      ddf.catalog/getSourceIds   {}
      ddf.catalog/getSourceInfo  {"ids": [...]}          gives {"sourceInfo": [...]}
    PATCH {base}{root}/metacards                         a list of updates
    GET   {base}{root}/metacardtype                      attribute groups
    GET   {base}{root}/config                            {"enums": {...}, ...}
    GET   {base}{root}/enumerations/metacardtype/{group} enumerations
    GET   {base}{root}/localcatalogid                    {"local-catalog-id": "..."}

A peer is whoever answers messages, if anyone does. A reply counts as a success by its status; what
it carries is looked at only then. Remote calls are numbered from 1, and a number is used up even by
a call that does not get through.

This is `HttpCatalog`, with `rpc`, `rpc_result`, `metadata_url` and `get_json`.
-/

set_option autoImplicit false

namespace Metacard.Http

inductive Method where
  | get
  | post
  | patch
  deriving DecidableEq, Repr

structure Message where
  method : Method
  /-- The path and the query of the address, encoded. -/
  target : String
  body : Option Json
  deriving DecidableEq, Repr

/-- The body of a reply: a text, or a value in place of whatever text has it for a value. -/
inductive Body where
  | text (text : String)
  | json (value : Json)
  deriving DecidableEq, Repr

structure Reply where
  status : Nat
  body : Body
  deriving DecidableEq, Repr

/-- Whoever answers messages; there is no reply if the peer cannot be reached. -/
structure Peer (σ : Type) where
  answer : Message → σ → Option Reply × σ

structure Remote (σ : Type) where
  nextId : Nat
  peer : σ
  deriving DecidableEq, Repr

def Method.name : Method → String
  | .get => "GET"
  | .post => "POST"
  | .patch => "PATCH"

def Message.line (message : Message) : String :=
  message.method.name ++ " " ++ message.target

namespace Body

def value? : Body → Option Json
  | .text written => Json.parse? written
  | .json value => some value

def document? : Body → Option Document
  | .text written => Document.parse? written
  | .json value => some (.ofJson value)

end Body

namespace Remote

variable {σ : Type}

def new (peer : σ) : Remote σ where
  nextId := 1
  peer := peer

def exchangeFailure (call : String) (fault : ExchangeFault) : Failure :=
  .request (.exchange call fault)

/-- Sends a message to an address. `call` names what it is for. -/
def send (peer : Peer σ) (call : String) (method : Method) (address : Url) (body : Option Json) :
    Call σ Reply := fun state =>
  let url := address.withoutCredentials
  if url.isRequestable then
    match peer.answer ⟨method, url.target, body⟩ state with
    | (some reply, next) => (.ok reply, next)
    | (none, next) => (.error (exchangeFailure call (.unreachable url.render)), next)
  else (.error (exchangeFailure call (.badAddress url.render)), state)

def sendTo (peer : Peer σ) (call : String) (method : Method) (address : String)
    (body : Option Json) : Call σ Reply := fun state =>
  match Url.parse address with
  | .ok url => send peer call method url body state
  | .error _ => (.error (exchangeFailure call .noAddress), state)

def accepted (call : String) (reply : Reply) : Except Failure Reply :=
  if isSuccess reply.status then .ok reply
  else .error (exchangeFailure call (.refused reply.status))

def content {α : Type} (read? : Body → Option α) (call : String) (reply : Reply) :
    Except Failure α :=
  match read? reply.body with
  | some value => .ok value
  | none => .error (exchangeFailure call .unreadable)

def carried {α : Type} (decoder : Decoder α) (value : Json) : Except Failure α :=
  (decoder value).mapError fun fault => .serialization (.data fault)

def onPeer {α : Type} (call : Call σ α) : Call (Remote σ) α := fun remote =>
  let (outcome, peer) := call remote.peer
  (outcome, { remote with peer := peer })

/-! ## Remote calls -/

def envelope (id : Nat) (method : String) (params : Json) : Json :=
  .object [("id", .natural id), ("jsonrpc", .text "2.0"), ("method", .text method),
    ("params", params)]

/-- The code of an error; one that is no integer of 64 bits counts as 0. -/
def errorCode (error : Json) : Int :=
  match (error.member? "code").map Decode.integer with
  | some (.ok code) => code
  | _ => 0

/-- The result in the reply to a remote call. An error goes before a result. -/
def resultOf (method : String) (reply : Json) : Except Failure Json :=
  match (reply.member? "error").filter (!·.isNull) with
  | some error =>
      let message := ((error.member? "message").bind Json.text?).getD "unknown error"
      .error (.request (.callFailed method (errorCode error) message))
  | none =>
      match reply.member? "result" with
      | some result => .ok result
      | none => .error (.request (.replyWithoutResult method))

def callOutcome (method : String) (reply : Reply) : Except Failure Json := do
  let reply ← accepted method reply
  let body ← content Body.value? method reply
  resultOf method body

def call (config : Config) (peer : Peer σ) (method : String) (params : Json) :
    Call (Remote σ) Json := fun remote =>
  let body := envelope remote.nextId method params
  let (reply, next) :=
    onPeer (sendTo peer method .post config.rpcUrl (some body))
      { remote with nextId := remote.nextId + 1 }
  (reply.bind (callOutcome method), next)

def idsJson (ids : List String) : Json :=
  .object [("ids", .array (ids.map .text))]

def sourcesOf (result : Json) : Except Failure (List SourceInfo) :=
  match result.member? "sourceInfo" with
  | some sources => carried (Decode.list SourceInfo.decode) sources
  | none => .error (.request .replyWithoutSources)

/-- Sends updates; only the status of the reply is looked at. -/
def update (config : Config) (peer : Peer σ) (updates : List MetacardUpdate) :
    Call (Remote σ) Unit := fun remote =>
  let name := "PATCH /metacards"
  let body : Json := .array (updates.map MetacardUpdate.toJson)
  let (reply, next) :=
    onPeer (sendTo peer name .patch (config.endpoint "/metacards") (some body)) remote
  ((reply.bind (accepted name)).map fun _ => (), next)

def backend (config : Config) (peer : Peer σ) : Backend (Remote σ) where
  query request := call config peer "ddf.catalog/query" request.toJson
  create request := call config peer "ddf.catalog/create" request
  update updates := update config peer updates
  delete ids := fun remote =>
    let (result, next) := call config peer "ddf.catalog/delete" (idsJson ids) remote
    (result.map fun _ => (), next)
  sourceIds := fun remote =>
    let (result, next) := call config peer "ddf.catalog/getSourceIds" (.object []) remote
    (result.bind (carried (Decode.list Decode.text)), next)
  sourceInfo ids := fun remote =>
    let (result, next) := call config peer "ddf.catalog/getSourceInfo" (idsJson ids) remote
    (result.bind sourcesOf, next)

/-! ## Metadata -/

def metadataUrl (config : Config) (segments : List String) : Except Failure Url :=
  let root := config.endpoint ""
  match Url.parse root with
  | .error fault => .error (.request (.urlMalformed root fault))
  | .ok url =>
      match url.extend? segments with
      | some extended => .ok extended
      | none => .error (.request (.urlWithoutPath root))

def fetch {α : Type} (config : Config) (peer : Peer σ) (read? : Body → Option α)
    (segments : List String) : Call (Remote σ) α := fun remote =>
  match metadataUrl config segments with
  | .error failure => (.error failure, remote)
  | .ok url =>
      let path := url.pathText
      let (reply, next) := onPeer (send peer path .get url none) remote
      let outcome := do
        let reply ← reply
        let reply ← accepted ("GET " ++ path) reply
        content read? path reply
      (outcome, next)

def enumerationsOf (config : Json) : Except Failure Enumerations :=
  match (config.member? "enums").filter (!·.isNull) with
  | some enumerations => carried Enumerations.decode enumerations
  | none => .ok .empty

def localIdOf (reply : Json) : Except Failure String :=
  match (reply.member? "local-catalog-id").bind Json.text? with
  | some id => .ok id
  | none => .error (.request .replyWithoutLocalId)

def typed {α : Type} (read? : Document → Option α) (body : Body) : Option α :=
  body.document?.bind read?

def metadata (config : Config) (peer : Peer σ) : MetadataSource (Remote σ) where
  attributeGroups := fetch config peer (typed AttributeGroups.read?) ["metacardtype"]
  enumerationConfig := fun remote =>
    let (reply, next) := fetch config peer Body.value? ["config"] remote
    (reply.bind enumerationsOf, next)
  groupEnumerations group :=
    fetch config peer (typed Enumerations.read?) ["enumerations", "metacardtype", group]
  localCatalogId := fun remote =>
    let (reply, next) := fetch config peer Body.value? ["localcatalogid"] remote
    (reply.bind localIdOf, next)

end Remote

end Metacard.Http
