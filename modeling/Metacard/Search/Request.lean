import Metacard.Filter.Cql
import Metacard.Search.Settings
/-!
# Query requests

The body of the catalog's query operation: the query text and the settings, side by side in one
object. A filter tree is compiled and put into parentheses; a query text is sent as it is.

This is `QueryAssembler`, which makes a `BackendQuery` of a `QueryFilter`.
-/

set_option autoImplicit false

namespace Metacard

inductive Criterion where
  | tree (filter : Filter)
  | cql (text : String)
  deriving DecidableEq

structure Request where
  cql : String
  settings : Settings
  deriving DecidableEq, Repr

namespace Criterion

def isTree : Criterion → Bool
  | .tree _ => true
  | .cql _ => false

def text : Criterion → Except FilterFault String
  | .tree filter => (Cql.compile filter).map fun text => "(" ++ text ++ ")"
  | .cql text => if (Text.trim text).isEmpty then .error .cqlBlank else .ok text

end Criterion

namespace Request

/-- The request of a criterion. The settings are looked at before the criterion. -/
def assemble (criterion : Criterion) (settings : Settings) : Except Failure Request := do
  settings.validate.mapError .settings
  let cql ← criterion.text.mapError .filter
  .ok ⟨cql, settings⟩

/-- Reads a request. The query text is looked at before the settings, which are read from the
members set aside. -/
def decode : Decoder Request
  | .object members => do
      let cql ←
        match members.lookup "cql" with
        | some value => Decode.text value
        | none => .error (.missing "cql")
      let settings ← (Settings.fields .buffered).ofObject members
      .ok ⟨cql, settings⟩
  | found => .error (.wrongType found "struct BackendQuery")

def toJson (request : Request) : Json :=
  .record (("cql", .text request.cql) :: request.settings.members)

end Request

end Metacard
