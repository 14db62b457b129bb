import GraphBroker.Remote.Address
import GraphBroker.Remote.Domain.Basic
import GraphBroker.Remote.Url.Encoding
import GraphBroker.Remote.Url.Scheme

namespace GraphBroker.Remote.Url

/-!
# Authorities

The authority of a URL says who asks, whom, and at which port.  The last at sign
ends the login, and the first colon outside brackets the host.
-/

/-- A login, a host and a port as a URL writes them. -/
structure Authority where
  username : String
  password : Option String
  /-- The host, which only a URL that is not special may leave empty. -/
  host : String
  port : Option Nat
  deriving Repr, DecidableEq

/-! ## Hosts -/

/-- A character that no host may have. -/
def isForbiddenInHost (c : Char) : Bool :=
  ['\x00', '\t', '\n', '\r', ' ', '#', '/', ':', '<', '>', '?', '@', '[', '\\', ']', '^', '|'].contains c

/-- A character that no domain name may have. -/
def isForbiddenInDomain (c : Char) : Bool :=
  isForbiddenInHost c || c.toNat < 0x20 || c == '%' || c.toNat == 0x7F

/-- The written form of a domain name or of the address that it is. -/
def domain? (chars : List Char) : Option String := do
  let text ← decodeChars? chars
  let domain ← Domain.toAscii? text.toList
  if domain.isEmpty || domain.any isForbiddenInDomain then none
  else if Address4.endsInNumber domain then (Address4.parse? domain).map Address4.render
  else some (String.ofList domain)

/-- The written form of a host. -/
def host? (special : Bool) (chars : List Char) : Option String :=
  match chars with
  | '[' :: rest =>
      match rest.reverse with
      | ']' :: inside => (Address6.parse? inside.reverse).map Address6.render
      | _ => none
  | _ =>
      if special then domain? chars
      else if chars.any isForbiddenInHost then none
      else some (encodeChars keptInHost chars)

/-! ## Ports -/

/-- Cut a host off before its port. -/
def cutHost (inBrackets : Bool) (before : List Char) : List Char → List Char × Option (List Char)
  | [] => (before.reverse, none)
  | c :: rest =>
      if c == ':' && !inBrackets then
        (before.reverse, some rest)
      else
        cutHost (if c == '[' then true else if c == ']' then false else inBrackets) (c :: before) rest

/-- Read a port.  An empty one, and the standard one, count as none. -/
def readPort? (scheme : String) (digits : List Char) : Option (Option Nat) := do
  if digits.isEmpty then
    some none
  else
    let value ← Text.digitsValue? 10 digits
    if 65535 < value then none
    else if standardPort? scheme = some (some value) then some none
    else some (some value)

/-! ## Logins -/

/-- Cut characters at the last at sign. -/
def cutLogin (chars : List Char) : Option (List Char) × List Char :=
  let after := (chars.reverse.takeWhile (· != '@')).reverse
  if after.length < chars.length then (some (chars.take (chars.length - after.length - 1)), after)
  else (none, after)

/-- A user name and a password that is not empty. -/
def login (chars : List Char) : String × Option String :=
  match cutAt ':' chars with
  | (username, none) | (username, some []) => (encodeChars keptInLogin username, none)
  | (username, some password) =>
      (encodeChars keptInLogin username, some (encodeChars keptInLogin password))

/-! ## Whole authorities -/

/--
Read an authority and what follows a port that a backslash ends.  `more` says
that more of the URL comes after it.
-/
def authority? (scheme : String) (more : Bool) (chars : List Char) :
    Option (Authority × List Char) := do
  let (loginChars, afterLogin) := cutLogin chars
  let (name, afterName) := cutHost false [] afterLogin
  let (digits, rest) := (afterName.getD []).span (· != '\\')
  let port ← readPort? scheme digits
  let (username, password) := login (loginChars.getD [])
  if loginChars = some [] ∧ afterLogin.isEmpty ∧ more then
    none
  else if name.isEmpty then
    if isSpecial scheme || afterName.isSome || username != "" || password.isSome then none
    else some (⟨username, password, "", none⟩, rest)
  else
    let host ← host? (isSpecial scheme) name
    some (⟨username, password, host, port⟩, rest)

end GraphBroker.Remote.Url
