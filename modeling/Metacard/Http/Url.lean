import Metacard.Http.Host
import Metacard.Http.Path
import Metacard.Text.Split
/-!
# URLs

Absolute URLs as the URL Standard reads and writes them: schemes in lower case, hosts in one form,
the default port left out, paths without dot segments, and characters that cannot stand for
themselves percent-encoded as the bytes of their UTF-8 form.
-/

set_option autoImplicit false

namespace Metacard.Http

open Metacard.Text

def defaultPorts : List (String × Nat) :=
  [("http", 80), ("https", 443), ("ws", 80), ("wss", 443), ("ftp", 21)]

/-- The schemes whose URLs always have a host and a path of segments. That of files may leave its
host empty. -/
def isSpecial (scheme : String) : Bool :=
  (defaultPorts.lookup scheme).isSome || scheme = "file"

def scheme? (chars : List Char) : Option (String × List Char) :=
  match splitAtMark ':' chars with
  | (name, some rest) =>
      let name := withoutDropped name
      if (name.head?.map Char.isAlpha).getD false &&
          name.all fun c => c.isAlphanum || "+-.".toList.contains c then
        some (String.ofList (name.map Char.toLower), rest)
      else none
  | _ => none

/-! ## Authorities -/

structure Credentials where
  /-- The name of the user, encoded. -/
  username : String
  /-- The password, encoded. An empty one is not written. -/
  password : Option String
  deriving DecidableEq, Repr

namespace Credentials

def absent : Credentials where
  username := ""
  password := none

def isEmpty (credentials : Credentials) : Bool :=
  credentials.username.isEmpty && credentials.password.isNone

def read (chars : List Char) : Credentials :=
  let (username, password) := splitAtMark ':' chars
  { username := percentEncode inUserSet username
    password :=
      match password with
      | none | some [] => none
      | some password => some (percentEncode inUserSet password) }

def render (credentials : Credentials) : String :=
  if credentials.isEmpty then ""
  else
    credentials.username ++ (credentials.password.map fun password => ":" ++ password).getD "" ++
      "@"

/-- The credentials can be given apart from the URL: the name is UTF-8 when decoded, and it is not
empty or there is a password that is UTF-8 too. -/
def isReadable (credentials : Credentials) : Bool :=
  let decodes := fun text : String => (percentDecode? text.toList).isSome
  decodes credentials.username &&
    (!credentials.username.isEmpty || (credentials.password.map decodes).getD false)

end Credentials

structure Authority where
  credentials : Credentials
  host : Host
  /-- The port, unless it is the default one. -/
  port : Option Nat
  deriving DecidableEq, Repr

/-- Parts a host from its port. A colon inside brackets belongs to the host. -/
def splitPort (inside : Bool) : List Char → List Char × Option (List Char)
  | [] => ([], none)
  | c :: rest =>
      if c = ':' ∧ ¬inside then ([], some rest)
      else
        let bracketed := if c = '[' then true else if c = ']' then false else inside
        let (host, port) := splitPort bracketed rest
        (c :: host, port)

def port? (digits : List Char) : Except UrlFault (Option Nat) :=
  if digits.isEmpty then .ok none
  else
    match natural? 10 digits with
    | some value => if value < 0x10000 then .ok (some value) else .error .portMalformed
    | none => .error .portMalformed

namespace Authority

def render (authority : Authority) : String :=
  authority.credentials.render ++ authority.host.render ++
    (authority.port.map fun port => ":" ++ toString port).getD ""

/-- Parts credentials from the host at the last at sign. Without any credentials before it the sign
may only be left there if a host follows or the URL ends. -/
def splitCredentials (isEnd : Bool) (chars : List Char) :
    Except UrlFault (Credentials × List Char) :=
  let place := (chars.reverse.takeWhile (· != '@')).reverse
  let before := chars.take (chars.length - place.length)
  if before = ['@'] ∧ place.isEmpty ∧ ¬isEnd then .error .hostEmpty
  else .ok (Credentials.read before.dropLast, place)

/-- Reads an authority. A backslash ends the port of any scheme; what follows it is left. The URL
itself may end with the authority. -/
def read (scheme : String) (isEnd : Bool) (chars : List Char) :
    Except UrlFault (Authority × List Char) := do
  let (credentials, place) ← splitCredentials isEnd chars
  let (host, port) := splitPort false place
  if host.isEmpty ∧ (isSpecial scheme ∨ port.isSome) then .error .hostEmpty
  else
    let host ← Host.read (isSpecial scheme) host
    let (digits, left) := breakAt (· == '\\') (port.getD [])
    let port ← port? digits
    if host = .absent ∧ ¬credentials.isEmpty then .error .hostEmpty
    else
      .ok ({
        credentials := credentials
        host := host
        port := port.filter fun value => decide (defaultPorts.lookup scheme ≠ some value) }, left)

def ofHost (host : Host) : Authority where
  credentials := .absent
  host := host
  port := none

end Authority

/-! ## Hierarchies -/

/-- What follows a slash in front, which at most dropped characters come before. -/
def afterSlash? (chars : List Char) : Option (List Char) :=
  match chars.dropWhile isDropped with
  | first :: rest => if isSlash true first then some rest else none
  | [] => none

/-- The host and the path of a URL of a file after two slashes. A drive in the place of the host
belongs to the path, and the host of this machine is left empty. -/
def hostedFile (chars : List Char) : Except UrlFault (Host × List String) :=
  let (place, path) := breakAt (isSlash true) chars
  let place := withoutDropped place
  if (drive? (String.ofList place)).isSome then .ok (.absent, (FilePath.read chars).segments)
  else if place.isEmpty then .ok (.absent, (FilePath.read path).segments)
  else do
    let host ← Host.read true place
    if host = .named "localhost" then .ok (.absent, (FilePath.read path).segments)
    else
      let path := FilePath.read (path.drop 1)
      .ok (if path.isLocal then .absent else host, path.segments)

def fileHierarchy (chars : List Char) : Except UrlFault (Host × List String) :=
  match afterSlash? chars with
  | none => .ok (.absent, (FilePath.read chars).segments)
  | some rest =>
      match afterSlash? rest with
      | none => .ok (.absent, (FilePath.read rest).segments)
      | some rest => hostedFile rest

def hierarchy? (scheme : String) (isEnd : Bool) (chars : List Char) :
    Except UrlFault (Option Authority × UrlPath) :=
  if scheme = "file" then do
    let (host, path) ← fileHierarchy chars
    .ok (some (.ofHost host), .segments path)
  else
    let chars := withoutDropped chars
    if isSpecial scheme then do
      let (place, path) := breakAt (isSlash true) (chars.dropWhile (isSlash true))
      let (authority, _) ← Authority.read scheme (isEnd && path.isEmpty) place
      .ok (some authority, .segments (readSegments true (path.drop 1)))
    else
      match chars with
      | '/' :: '/' :: rest => do
          let (place, path) := breakAt (isSlash false) rest
          let (authority, left) ← Authority.read scheme (isEnd && path.isEmpty) place
          .ok (some authority, .segments (
            match left ++ path with
            | [] => []
            | '/' :: path => readSegments false path
            | path => readSegments false path))
      | '/' :: rest => .ok (none, .segments (readSegments false rest))
      | rest => .ok (none, .flat (percentEncode isControl rest))

structure Url where
  scheme : String
  authority : Option Authority
  path : UrlPath
  /-- The path is written after `/.`, so that it cannot be taken for an authority. -/
  isPathMarked : Bool
  query : Option String
  fragment : Option String
  deriving DecidableEq, Repr

namespace Url

def trimmed (chars : List Char) : List Char :=
  let isEdge := fun c : Char => decide (c.toNat ≤ 0x20)
  ((chars.dropWhile isEdge).reverse.dropWhile isEdge).reverse

def parse (text : String) : Except UrlFault Url :=
  match scheme? (trimmed text.toList) with
  | none => .error .relative
  | some (scheme, rest) => do
      let (rest, fragment) := splitAtMark '#' rest
      let (rest, query) := splitAtMark '?' rest
      let (authority, path) ← hierarchy? scheme (query.isNone && fragment.isNone) rest
      let querySet := if isSpecial scheme then inSpecialQuerySet else inQuerySet
      .ok {
        scheme := scheme
        authority := authority
        path := path
        isPathMarked := authority.isNone && path.startsTwice
        query := query.map fun query => percentEncode querySet (withoutDropped query)
        fragment := fragment.map fun fragment =>
          percentEncode inFragmentSet (withoutDropped fragment) }

def pathText (url : Url) : String :=
  url.path.render

def target (url : Url) : String :=
  url.pathText ++ (url.query.map fun query => "?" ++ query).getD ""

def render (url : Url) : String :=
  url.scheme ++ ":" ++ (url.authority.map fun authority => "//" ++ authority.render).getD "" ++
    (if url.isPathMarked then "/." else "") ++ url.target ++
    (url.fragment.map fun fragment => "#" ++ fragment).getD ""

/-- The URL with more segments, one of the empty ones at its end making room for them; a flat path
cannot be extended. -/
def extend? (url : Url) (segments : List String) : Option Url :=
  match url.path with
  | .flat _ => none
  | .segments path =>
      let extended := segments.foldl (pushSegment (isSpecial url.scheme)) (withoutFinalEmpty path)
      some { url with path := .segments extended }

/-! ## Sending -/

/-- The URL as requests are sent to it: without the credentials that are given apart from it. -/
def withoutCredentials (url : Url) : Url :=
  { url with
    authority := url.authority.map fun authority =>
      if authority.credentials.isReadable then { authority with credentials := .absent }
      else authority }

def isWeb (url : Url) : Bool :=
  url.scheme = "http" || url.scheme = "https"

def greatestLength : Nat := 65534

def isRequestable (url : Url) : Bool :=
  url.isWeb && (url.authority.map fun authority => authority.host.isAddressable).getD false &&
    decide (url.render.length ≤ greatestLength)

end Url

end Metacard.Http
