import Metacard.Text.Ascii
import Metacard.Text.Blank
import Metacard.Text.Quoted
import Metacard.Table
import Metacard.Number.Notation
import Metacard.Json.Printer
import Metacard.Json.Parser
import Metacard.Filter.Tree
import Metacard.Filter.Cql
import Metacard.Failure
import Metacard.Schema.Sdl
import Metacard.Search.Request
import Metacard.Search.Result
import Metacard.Meter
import Metacard.Config
import Metacard.Catalog.Store
import Metacard.Schema.Registry
import Metacard.Catalog.Rehearsal
import Metacard.Client
import Metacard.Http.Script
import Metacard.Proofs.Cql.RoundTrip
import Metacard.Proofs.Schema.Refresh
import Metacard.Proofs.Schema.Run
import Metacard.Proofs.Search.Shaping
import Metacard.Proofs.Client.Sending
import Metacard.Proofs.Filter.Tree
import Metacard.Proofs.Client.Create
import Metacard.Proofs.Client.Save
import Metacard.Proofs.Catalog.Update
import Metacard.Proofs.Client.Paging
import Metacard.Proofs.Client.Keys
import Metacard.Proofs.Client.Failing
import Metacard.Proofs.Cql.Faults
import Metacard.Proofs.Schema.Views
import Metacard.Proofs.Client.Accounting
import Metacard.Proofs.Http.Transport
import Metacard.Proofs.Http.Replies
import Metacard.Proofs.Filter.Canonical
import Metacard.Proofs.Schema.KnownIds
import Metacard.Proofs.Schema.Renaming
import Metacard.Proofs.Schema.Clashes
import Metacard.Proofs.Search.Response
import Metacard.Proofs.Search.StoredTree
import Metacard.Proofs.Client.Facets
import Metacard.Proofs.Client.AssignedIds
import Metacard.Proofs.Schema.Enumerations
import Metacard.Proofs.Client.Compilations
import Metacard.Proofs.Schema.Measures
import Metacard.Proofs.Schema.Declared
import Metacard.Proofs.Schema.Blocks
import Metacard.Proofs.Http.GroupAddress
