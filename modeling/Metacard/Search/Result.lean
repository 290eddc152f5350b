import Metacard.Filter.Cql
import Metacard.Json.Parser
import Metacard.Schema.Names
/-!
# Query results

A response of the catalog is shaped into a result: its status, its facets, and one record for each
hit. A record has the properties of its metacard under safe names, and keeps the metacard as it was
sent. The records it refers to are only named; looking them up is a query of its own.

This is `ResultShaper`, which makes a `QueryResult` of a response, with its `ResultRecord` and its
`RelatedQuery`.
-/

set_option autoImplicit false

namespace Metacard

structure QueryStatus where
  /-- The number of records in this page. -/
  count : Nat
  /-- The milliseconds that the catalog spent. -/
  elapsed : Nat
  /-- The number of all records that match. -/
  hits : Nat
  id : Option String
  successful : Bool
  deriving DecidableEq, Repr

structure FacetBucket where
  value : Json
  count : Nat
  deriving DecidableEq, Repr

structure MetacardAction where
  description : Option String
  displayName : Option String
  id : Option String
  title : Option String
  url : Option String
  deriving DecidableEq, Repr

/-- The records that a record refers to, by their ids. -/
structure Related where
  ids : List String
  deriving DecidableEq, Repr

structure Record where
  attributes : Table Json
  /-- The metacard as it was sent. -/
  metacard : Json
  actions : List MetacardAction
  related : Related
  deriving DecidableEq

structure QueryResult where
  records : List Record
  status : QueryStatus
  facets : Option (Table (List FacetBucket))
  deriving DecidableEq

def Json.ofOption {α : Type} (toJson : α → Json) : Option α → Json
  | some value => toJson value
  | none => .null

namespace QueryStatus

def fields : Fields QueryStatus :=
  QueryStatus.mk <$> .required "count" Decode.natural <*> .required "elapsed" Decode.natural <*>
    .required "hits" Decode.natural <*> .optional "id" Decode.text <*>
    .required "successful" Decode.boolean

def decode : Decoder QueryStatus :=
  fields.decode "QueryStatus" .direct

def toJson (status : QueryStatus) : Json :=
  .object [("count", .natural status.count), ("elapsed", .natural status.elapsed),
    ("hits", .natural status.hits), ("id", .ofOption .text status.id),
    ("successful", .boolean status.successful)]

end QueryStatus

namespace FacetBucket

def fields : Fields FacetBucket :=
  FacetBucket.mk <$> .required "value" Decode.json <*> .required "count" Decode.natural

def decode : Decoder FacetBucket :=
  fields.decode "FacetBucket" .direct

def toJson (bucket : FacetBucket) : Json :=
  .object [("count", .natural bucket.count), ("value", bucket.value)]

end FacetBucket

namespace MetacardAction

def fields : Fields MetacardAction :=
  MetacardAction.mk <$> .optionalDefaulted "description" Decode.text <*>
    .optionalDefaulted "displayName" Decode.text <*> .optionalDefaulted "id" Decode.text <*>
    .optionalDefaulted "title" Decode.text <*> .optionalDefaulted "url" Decode.text

def decode : Decoder MetacardAction :=
  fields.decode "MetacardAction" .direct

def toJson (action : MetacardAction) : Json :=
  .object [("description", .ofOption .text action.description),
    ("displayName", .ofOption .text action.displayName), ("id", .ofOption .text action.id),
    ("title", .ofOption .text action.title), ("url", .ofOption .text action.url)]

end MetacardAction

namespace Related

/-- The ids under the raw property `queries`: the texts of an array, or a single text. -/
def ofProperty : Option Json → Related
  | some (.array items) => ⟨items.filterMap Json.text?⟩
  | some (.text id) => ⟨[id]⟩
  | _ => ⟨[]⟩

def isEmpty (related : Related) : Bool :=
  related.ids.isEmpty

def filter? (related : Related) : Option Filter :=
  if related.isEmpty then none
  else some (.and (.any (related.ids.map fun id => .equal "id" (.text id))) .anyTag)

end Related

namespace Record

def ofMetacard (metacard : Json) (actions : List MetacardAction) : Record :=
  let properties := ((metacard.member? "properties").bind Json.table?).getD .empty
  let attributes := NameMap.renameToSafe properties
  { attributes, metacard, actions, related := .ofProperty (attributes.find? "queries") }

def get? (record : Record) (name : String) : Option Json :=
  record.attributes.find? name

def id? (record : Record) : Option String :=
  (record.get? "id").bind Json.text?

/-- The filter stored on the record, as a JSON text or as a JSON value, if there is one. -/
def filterTree? (record : Record) : Option (Except Failure Filter) :=
  (record.get? "filterTree").map fun stored =>
    match stored with
    | .text text =>
        match Json.parse? text with
        | some tree => (Filter.ofJson tree).mapError .filter
        | none => .error (.serialization .jsonMalformed)
    | tree => (Filter.ofJson tree).mapError .filter

end Record

namespace QueryResult

def facet? (result : QueryResult) (facet : String) : Option (List FacetBucket) :=
  result.facets.bind fun facets => facets.find? facet

end QueryResult

structure ResponseStatus where
  count : Option Nat
  hits : Option Nat
  successful : Option Bool
  id : Option Json
  elapsed : Option Nat
  deriving DecidableEq

structure ResponseHit where
  metacard : Json
  actions : List MetacardAction
  deriving DecidableEq

structure Response where
  hits : List ResponseHit
  status : Option ResponseStatus
  duration : Option Nat
  facets : Option (Table (List FacetBucket))
  deriving DecidableEq

namespace ResponseStatus

def fields : Fields ResponseStatus :=
  ResponseStatus.mk <$> .optional "count" Decode.natural <*> .optional "hits" Decode.natural <*>
    .optional "successful" Decode.boolean <*> .optional "id" Decode.json <*>
    .optional "elapsed" Decode.natural

def decode : Decoder ResponseStatus :=
  fields.decode "RawStatus" .direct

/-- The status of a result. The duration of the whole response goes before that of the status. -/
def complete (status : ResponseStatus) (duration : Option Nat) :
    Except RequestFault QueryStatus :=
  match status.count, status.hits, status.successful with
  | none, _, _ => .error (.statusIncomplete "count")
  | _, none, _ => .error (.statusIncomplete "hits")
  | _, _, none => .error (.statusIncomplete "successful")
  | some count, some hits, some successful =>
      .ok {
        count
        hits
        successful
        elapsed := (duration.or status.elapsed).getD 0
        id := status.id.map fun id => id.text?.getD id.render }

end ResponseStatus

namespace ResponseHit

def fields : Fields ResponseHit :=
  ResponseHit.mk <$> .defaulted "metacard" Decode.json .null <*>
    .defaulted "actions" (Decode.list MetacardAction.decode) []

def decode : Decoder ResponseHit :=
  fields.decode "RawResult" .direct

end ResponseHit

namespace Response

def fields : Fields Response :=
  Response.mk <$> .defaulted "results" (Decode.list ResponseHit.decode) [] <*>
    .optional "status" ResponseStatus.decode <*>
    .optionalDefaulted "request_duration_millis" Decode.natural <*>
    .optionalDefaulted "facets" (Decode.table (Decode.list FacetBucket.decode))

def decode : Decoder Response :=
  fields.decode "RawQueryResponse" .direct

def shape (response : Response) : Except RequestFault QueryResult :=
  match response.status with
  | none => .error .statusMissing
  | some status => do
      let complete ← status.complete response.duration
      .ok {
        records := response.hits.map fun hit => .ofMetacard hit.metacard hit.actions
        status := complete
        facets := response.facets }

end Response

def QueryResult.ofJson (sent : Json) : Except Failure QueryResult :=
  match Response.decode sent with
  | .error fault => .error (.request (.responseMalformed fault))
  | .ok response => response.shape.mapError .request

end Metacard
