import GraphBroker.Remote.Url.Basic

namespace GraphBroker.Remote.Url

/-!
# Reading URLs

Reading a URL is forgiving: blanks around it and line breaks inside it are
dropped, the scheme and the host are put into lower case, the standard port is
left out, and the segments `.` and `..` are resolved.
-/

/-- Characters without the blanks around them. -/
def withoutBlanksAround (chars : List Char) : List Char :=
  let outer (c : Char) : Bool := c.toNat ≤ 0x20
  ((chars.dropWhile outer).reverse.dropWhile outer).reverse

/-- An authority and a path, before their scheme and the rest of the URL are known. -/
structure Hierarchy where
  authority : Option Authority
  path : List String
  deriving Repr, DecidableEq

namespace Hierarchy

/-- Read an authority and the path after it. -/
def ofAuthority? (scheme : String) (more : Bool) (chars : List Char) : Option Hierarchy := do
  let special := isSpecial scheme
  let (named, after) := chars.span fun c => !isSlash special c
  let (authority, rest) ← authority? scheme (more || !after.isEmpty) named
  let path := rest ++ after
  some ⟨some authority, if path.isEmpty && !special then [] else segments special path⟩

/-- Read what follows a scheme that is not special, if it begins with a slash. -/
def ofOther? (scheme : String) (more : Bool) (chars : List Char) : Option Hierarchy :=
  match chars with
  | '/' :: '/' :: rest => ofAuthority? scheme more rest
  | '/' :: rest => some ⟨none, segments false rest⟩
  | _ => none

/-- The authority of a file on a host. -/
def fileHost (host : String) : Option Authority :=
  some ⟨"", none, host, none⟩

/-- The path of a file on no host. -/
def localFile (trail : Trail) : Hierarchy :=
  ⟨fileHost "", trail.filePath⟩

/-- Characters after a slash that stands in front of them. -/
def afterSlash? (chars : List Char) : Option (List Char) :=
  match chars.dropWhile isLineBreak with
  | first :: rest => if isSlash true first then some rest else none
  | [] => none

/-- Read the host of a file and the path after it; the letter of a drive is no host. -/
def ofFileHost? (chars : List Char) : Option Hierarchy := do
  let (named, after) := chars.span fun c => !isSlash true c
  let name := withoutBreaks named
  if isDrive name then
    some (localFile (fileTrail chars))
  else if name.isEmpty then
    some (localFile (fileTrail after))
  else
    let host ← host? true name
    if host = "localhost" then
      some (localFile (fileTrail after))
    else
      let trail := fileTrail (withoutSlash true after)
      some ⟨fileHost (if trail.onDrive then "" else host), trail.filePath⟩

/-- Read what follows the scheme of a file, line breaks included. -/
def ofFile? (chars : List Char) : Option Hierarchy :=
  match afterSlash? chars with
  | none => some (localFile (fileTrail chars))
  | some rest =>
      match afterSlash? rest with
      | none => some (localFile (fileTrail rest))
      | some rest => ofFileHost? rest

/-- Read what follows a scheme. -/
def ofScheme? (scheme : String) (more : Bool) (chars : List Char) : Option Hierarchy :=
  if scheme == "file" then ofFile? chars
  else if isSpecial scheme then
    ofAuthority? scheme more ((withoutBreaks chars).dropWhile (isSlash true))
  else ofOther? scheme more (withoutBreaks chars)

end Hierarchy

/-- Read a URL, if it is one and its path can be extended. -/
def parse? (text : String) : Option Url := do
  let (scheme, afterScheme) ← scheme? (withoutBlanksAround text.toList)
  let (beforeFragment, fragment) := cutAt '#' afterScheme
  let (chars, query) := cutAt '?' beforeFragment
  let hierarchy ← Hierarchy.ofScheme? scheme (query.isSome || fragment.isSome) chars
  some {
    scheme
    authority := hierarchy.authority
    guarded := hierarchy.authority.isNone && 2 ≤ hierarchy.path.length
      && hierarchy.path.head? == some ""
    path := hierarchy.path
    query := query.map (encodeChars (keptInQuery (isSpecial scheme)) ∘ withoutBreaks)
    fragment := fragment.map (encodeChars keptInFragment ∘ withoutBreaks) }

end GraphBroker.Remote.Url
