import Metacard.Decode
import Metacard.Http.Status
import Metacard.Http.Url
/-!
# Failures

What a call to the catalog can fail with. A failure has a kind, which is counted, and a message.

This is `CatalogError` with every message that it is made with.
-/

set_option autoImplicit false

namespace Metacard

inductive SettingsFault where
  | startBelowOne (start : Int)
  | countNegative (count : Int)
  | stated (text : String)
  deriving DecidableEq

/-- Why an exchange with a catalog over the network did not take place or was not understood. -/
inductive ExchangeFault where
  /-- The address is no absolute URL. -/
  | noAddress
  /-- The address is a URL that cannot be sent to. -/
  | badAddress (url : String)
  | unreachable (url : String)
  | refused (status : Nat)
  | unreadable
  deriving DecidableEq

inductive RequestFault where
  | responseMalformed (fault : DataFault)
  | statusMissing
  | statusIncomplete (member : String)
  | requestWithoutCards
  | cardUnknown (id : String)
  | replyWithoutCard
  | enumerationsUnavailable (group : String)
  | callFailed (method : String) (code : Int) (message : String)
  | replyWithoutResult (method : String)
  | replyWithoutSources
  | replyWithoutLocalId
  | urlMalformed (url : String) (fault : Http.UrlFault)
  | urlWithoutPath (url : String)
  | exchange (call : String) (fault : ExchangeFault)
  | stated (text : String)
  deriving DecidableEq

inductive SerialFault where
  | jsonMalformed
  | data (fault : DataFault)
  | stated (text : String)
  deriving DecidableEq

inductive Failure where
  | filter (fault : FilterFault)
  | settings (fault : SettingsFault)
  | nameCollision (safe first second : String)
  | request (fault : RequestFault)
  | partialMetadata (group reason : String)
  | serialization (fault : SerialFault)
  deriving DecidableEq

instance : Inhabited Failure := ⟨.request (.stated "")⟩

def SettingsFault.message : SettingsFault → String
  | .startBelowOne start => "start is 1-based, got " ++ toString start
  | .countNegative count => "count must not be negative, got " ++ toString count
  | .stated text => text

def ExchangeFault.message : ExchangeFault → String
  | .noAddress => "builder error"
  | .badAddress url => "builder error for url (" ++ url ++ ")"
  | .unreachable url => "error sending request for url (" ++ url ++ ")"
  | .refused status => "HTTP " ++ Http.statusText status
  | .unreadable => "error decoding response body"

def RequestFault.message : RequestFault → String
  | .responseMalformed fault => "malformed query response: " ++ fault.message
  | .statusMissing => "query response has no status"
  | .statusIncomplete member => "query response status has no '" ++ member ++ "'"
  | .requestWithoutCards => "create request has no 'metacards'"
  | .cardUnknown id => "no metacard with id '" ++ id ++ "'"
  | .replyWithoutCard => "create reply has no created metacard"
  | .enumerationsUnavailable group => "enumerations for '" ++ group ++ "' unavailable"
  | .callFailed method code message =>
      method ++ " failed (" ++ toString code ++ "): " ++ message
  | .replyWithoutResult method => method ++ " reply has no result"
  | .replyWithoutSources => "getSourceInfo reply has no sourceInfo"
  | .replyWithoutLocalId => "localcatalogid reply has no local-catalog-id"
  | .urlMalformed url fault => "bad catalog url " ++ url ++ ": " ++ fault.message
  | .urlWithoutPath url => "catalog url " ++ url ++ " cannot take a path"
  | .exchange call fault => call ++ ": " ++ fault.message
  | .stated text => text

def SerialFault.message : SerialFault → String
  | .jsonMalformed => "<malformed json>"
  | .data fault => fault.message
  | .stated text => text

namespace Failure

def kind : Failure → String
  | .filter _ => "invalid_predicate"
  | .settings _ => "invalid_settings"
  | .nameCollision _ _ _ => "identifier_collision"
  | .request _ => "backend_request_failed"
  | .partialMetadata _ _ => "partial_metadata_failure"
  | .serialization _ => "serialization"

def message : Failure → String
  | .filter fault => "Invalid predicate: " ++ fault.message
  | .settings fault => "Invalid query settings: " ++ fault.message
  | .nameCollision safe first second =>
      "Attributes '" ++ first ++ "' and '" ++ second ++ "' both map to schema field '" ++ safe ++
        "'"
  | .request fault => "Catalog backend request failed: " ++ fault.message
  | .partialMetadata group reason =>
      "Enumerations for metacard type group '" ++ group ++ "' unavailable: " ++ reason
  | .serialization fault => "Serialization error: " ++ fault.message

end Failure

end Metacard
