import Metacard.Decode
/-!
# Configuration

Where a catalog is reached and how. Every setting has a default.

This is `CatalogConfig`.
-/

set_option autoImplicit false

namespace Metacard

structure Config where
  /-- Scheme, host and port. -/
  baseUrl : String
  /-- The path under which the endpoints lie. -/
  apiRoot : String
  rpcPath : String
  timeoutMilliseconds : Nat
  acceptInvalidCerts : Bool
  /-- The size of a page for queries that do not set one. -/
  defaultCount : Option Int
  deriving DecidableEq, Repr

namespace Config

def fields : Fields Config :=
  Config.mk <$> .defaulted "base_url" Decode.text "https://localhost:8993" <*>
    .defaulted "api_root" Decode.text "/search/catalog/internal" <*>
    .defaulted "rpc_path" Decode.text "/direct" <*>
    .defaulted "request_timeout_ms" Decode.natural 30000 <*>
    .defaulted "accept_invalid_certs" Decode.boolean false <*>
    .optionalDefaulted "default_page_size" Decode.integer

def decode : Decoder Config :=
  fields.decode "CatalogConfig" .direct

def base (config : Config) : String :=
  String.ofList ((config.baseUrl.toList.reverse.dropWhile (· == '/')).reverse)

def endpoint (config : Config) (path : String) : String :=
  config.base ++ config.apiRoot ++ path

def rpcUrl (config : Config) : String :=
  config.base ++ config.rpcPath

end Config

end Metacard
