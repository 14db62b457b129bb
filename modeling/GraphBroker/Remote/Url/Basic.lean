import GraphBroker.Admin.Call
import GraphBroker.Remote.Url.Authority
import GraphBroker.Remote.Url.Path

namespace GraphBroker.Remote

/-!
# URLs

A URL with a path that can be extended: `Url.extend` adds segments that
percent-encoding keeps from being anything but one segment each.
-/

/-- A URL whose path is a list of segments, percent-encoded where that is needed. -/
structure Url where
  scheme : String
  authority : Option Url.Authority
  /-- A path without authority has begun with an empty segment, which `/.` keeps from being one. -/
  guarded : Bool
  path : List String
  query : Option String
  fragment : Option String
  deriving Repr, DecidableEq

namespace Url

/-- Requests can be sent to this URL. -/
def isHttp (url : Url) : Bool :=
  url.scheme == "http" || url.scheme == "https"

/-- The host of a URL, which is empty where it names none. -/
def host (url : Url) : String :=
  (url.authority.map Authority.host).getD ""

/-- The port that a URL names. -/
def port? (url : Url) : Option Nat :=
  url.authority.bind Authority.port

/-- The URL names a host. -/
def hasHost (url : Url) : Bool :=
  url.host != ""

/-- A URL with names added to its path, one segment for each. -/
def extend (url : Url) (names : List String) : Url :=
  { url with path := names.foldl (pushSegment url.scheme) (popIfEmpty url.path) }

/-- A URL with more text at the end of its query. -/
def addQuery (url : Url) (text : String) : Url :=
  { url with
    query := some (match url.query with
      | none => text
      | some query => if query.isEmpty then text else query ++ "&" ++ text) }

/-! ## Logins in URLs -/

/-- The login that an authority presents, if its user name is a text. -/
def Authority.login? (authority : Authority) : Option Login := do
  let username ← decodeChars? authority.username.toList
  let password := authority.password.bind fun password => decodeChars? password.toList
  if username = "" ∧ password = none then none else some ⟨username, password.getD ""⟩

/-- An authority without a login. -/
def Authority.withoutLogin (authority : Authority) : Authority :=
  { authority with username := "", password := none }

/-- The login that a URL presents. -/
def login? (url : Url) : Option Login :=
  url.authority.bind Authority.login?

/-- A URL without the login that it presents. -/
def withoutLogin (url : Url) : Url :=
  if url.login?.isSome then { url with authority := url.authority.map Authority.withoutLogin }
  else url

/-! ## Written forms -/

/-- The written form of a path. -/
def pathText (url : Url) : String :=
  String.join (url.path.map fun segment => "/" ++ segment)

/-- What a request names on the host: the path and the query. -/
def target (url : Url) : String :=
  url.pathText ++ (url.query.map ("?" ++ ·)).getD ""

/-- The host of a URL and its port, where it has one. -/
def place (url : Url) : String :=
  url.host ++ (url.port?.map fun port => ":" ++ toString port).getD ""

/-- The written form of the login in an authority, and what separates it from the host. -/
def Authority.loginText (authority : Authority) : String :=
  if authority.username = "" ∧ authority.password = none then ""
  else authority.username ++ (authority.password.map (":" ++ ·)).getD "" ++ "@"

/-- The written form of a URL. -/
def render (url : Url) : String :=
  let authority :=
    match url.authority with
    | some authority => "//" ++ authority.loginText ++ url.place
    | none => if url.guarded then "/." else ""
  url.scheme ++ ":" ++ authority ++ url.target ++ (url.fragment.map ("#" ++ ·)).getD ""

end Url

end GraphBroker.Remote
