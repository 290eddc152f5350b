import Metacard.Proofs.Client.Simulation
import Metacard.Proofs.Http.Body
/-!
# Catalogs that are served

A service has places on the wire: a target for calls and one for updates, and a target for each kind
of metadata. A peer serves a catalog if it reads messages by their place and their body, does with
the catalog what they ask for, and tells in its reply what came of it.
-/

set_option autoImplicit false

namespace Metacard.Http

variable {σ : Type}

inductive Order where
  | demand (demand : Demand)
  | attributeGroups
  | enumerationConfig
  | groupEnumerations (group : String)
  | localCatalogId
  deriving DecidableEq

/-- The targets under which a catalog is served. The enumerations of a group have its name for the
last segment of their path. -/
structure Service where
  calls : String
  updates : String
  attributeGroups : String
  enumerationConfig : String
  enumerations : String
  localCatalogId : String

def lastSegment? (target : String) : Option (String × String) :=
  let (segment, above) :=
    (target.toList.takeWhile (· ≠ '?')).reverse.span (· ≠ '/')
  (percentDecode? segment.reverse).map fun name =>
    (String.ofList (above.drop 1).reverse, String.ofList name)

def idsOf? (params : Json) : Option (List String) :=
  ((params.member? "ids").map (Decode.list Decode.text)).bind Except.toOption

def demandOf? (method : String) (params : Json) : Option Demand :=
  match method with
  | "ddf.catalog/query" => (Request.decode params).toOption.map .query
  | "ddf.catalog/create" => some (.create params)
  | "ddf.catalog/delete" => (idsOf? params).map .delete
  | "ddf.catalog/getSourceIds" => some .sourceIds
  | "ddf.catalog/getSourceInfo" => (idsOf? params).map .sourceInfo
  | _ => none

def callOf? (body : Json) : Option Demand :=
  if body.member? "jsonrpc" = some (.text "2.0") then
    ((body.member? "method").bind Json.text?).bind fun method =>
      (body.member? "params").bind (demandOf? method)
  else none

def updatesOf? (body : Json) : Option (List MetacardUpdate) :=
  (Decode.list MetacardUpdate.decode body).toOption

namespace Service

def metadataOf? (service : Service) (target : String) : Option Order :=
  if target = service.attributeGroups then some .attributeGroups
  else if target = service.enumerationConfig then some .enumerationConfig
  else if target = service.localCatalogId then some .localCatalogId
  else
    match lastSegment? target with
    | some (above, group) =>
        if above = service.enumerations then some (.groupEnumerations group) else none
    | none => none

def read? (service : Service) (message : Message) : Option Order :=
  match message.method, message.body with
  | .post, some body =>
      if message.target = service.calls then (callOf? body).map .demand else none
  | .patch, some body =>
      if message.target = service.updates then
        (updatesOf? body).map fun updates => .demand (.update updates)
      else none
  | .get, none => service.metadataOf? message.target
  | _, _ => none

end Service

/-! ## What comes of it -/

def carrying {α : Type} (toJson : α → Json) (call : Call Store α) : Call Store Json := fun store =>
  let (outcome, next) := call store
  (outcome.map toJson, next)

def sourcesJson (sources : List SourceInfo) : Json :=
  .object [("sourceInfo", .array (sources.map SourceInfo.toJson))]

namespace Order

def run : Order → Call Store Json
  | .demand (.query request) => carrying id (Store.query request)
  | .demand (.create request) => carrying id (Store.create request)
  | .demand (.update updates) => carrying (fun _ => .null) (Store.update updates)
  | .demand (.delete ids) => carrying (fun _ => .null) (Store.delete ids)
  | .demand .sourceIds => carrying (fun ids => .array (ids.map .text)) Store.sourceIds
  | .demand (.sourceInfo ids) => carrying sourcesJson (Store.sourceInfo ids)
  | .attributeGroups => carrying AttributeGroups.toJson Store.metadata.attributeGroups
  | .enumerationConfig => carrying Enumerations.toJson Store.metadata.enumerationConfig
  | .groupEnumerations group =>
      carrying Enumerations.toJson (Store.metadata.groupEnumerations group)
  | .localCatalogId => carrying .text Store.metadata.localCatalogId

/-- The reply to a call has this result, and no error. -/
structure HasResult (reply result : Json) : Prop where
  result : reply.member? "result" = some result
  noError : ∀ error, reply.member? "error" = some error → error = .null

/-- The body of a reply carries a result of an order. Nothing is carried for updates, and anything
for a deletion. Attributes and enumerations are written with every member once. -/
def Carries (order : Order) (value : Json) (body : Body) : Prop :=
  match order with
  | .demand (.update _) => True
  | .demand (.delete _) => ∃ reply, body.Carries reply ∧ ∃ result, HasResult reply result
  | .demand _ => ∃ reply, body.Carries reply ∧ HasResult reply value
  | .attributeGroups | .groupEnumerations _ =>
      ∃ document, body.Shows document ∧ document.Writes value
  | .enumerationConfig =>
      ∃ config, body.Carries config ∧ config.member? "enums" = some value
  | .localCatalogId =>
      ∃ reply, body.Carries reply ∧ reply.member? "local-catalog-id" = some value

/-- The reply tells what came of an order: its result, or by its status that it failed. -/
def Tells (order : Order) (outcome : Except Failure Json) (reply : Reply) : Prop :=
  match outcome with
  | .ok value => isSuccess reply.status = true ∧ order.Carries value reply.body
  | .error _ => isSuccess reply.status = false

end Order

/-- The peer does what it is asked for with the catalog that is in view, and tells what came of
it. -/
def Peer.Serves (peer : Peer σ) (service : Service) (view : σ → Store) : Prop :=
  ∀ ⦃message order⦄, service.read? message = some order → ∀ state, ∃ reply next,
    peer.answer message state = (some reply, next) ∧
      order.Tells (order.run (view state)).1 reply ∧ view next = (order.run (view state)).2

namespace Service

def bodyOf (order : Order) (value : Json) : Body :=
  match order with
  | .demand (.update _) => .text ""
  | .demand _ => .json (.object [("jsonrpc", .text "2.0"), ("result", value)])
  | .enumerationConfig => .json (.object [("enums", value)])
  | .localCatalogId => .json (.object [("local-catalog-id", value)])
  | .attributeGroups | .groupEnumerations _ => .json value

/-- The catalog in memory as a peer: 200 with a result, 500 for a failure, and 404 for what is not
understood. -/
def peer (service : Service) : Peer Store where
  answer message store :=
    match service.read? message with
    | none => (some ⟨404, .text ""⟩, store)
    | some order =>
        match order.run store with
        | (.ok value, next) => (some ⟨200, bodyOf order value⟩, next)
        | (.error _, next) => (some ⟨500, .text ""⟩, next)

theorem carries_bodyOf (order : Order) (value : Json) :
    order.Carries value (bodyOf order value) := by
  have noError : ∀ error, (Json.object [("jsonrpc", .text "2.0"), ("result", value)]).member?
      "error" = some error → error = .null := nofun
  cases order with
  | demand demand =>
    cases demand with
    | update updates => trivial
    | delete ids => exact ⟨_, .json _, value, rfl, noError⟩
    | query | create | sourceIds | sourceInfo => exact ⟨_, .json _, rfl, noError⟩
  | attributeGroups | groupEnumerations =>
    exact ⟨.ofJson value, .json value, Document.writes_ofJson value⟩
  | enumerationConfig | localCatalogId => exact ⟨_, .json _, rfl⟩

theorem serves_peer (service : Service) : service.peer.Serves service id := by
  intro message order isRead store
  cases ran : order.run store with
  | mk outcome next =>
    cases outcome with
    | ok value =>
      refine ⟨⟨200, bodyOf order value⟩, next, ?_, ?_, ?_⟩
      · simp only [peer, isRead, ran]
      · rw [id, ran]
        exact ⟨rfl, carries_bodyOf order value⟩
      · rw [id, id, ran]
    | error failure =>
      refine ⟨⟨500, .text ""⟩, next, ?_, ?_, ?_⟩
      · simp only [peer, isRead, ran]
      · rw [id, ran]
        rfl
      · rw [id, id, ran]

end Service

end Metacard.Http
