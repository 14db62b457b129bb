namespace GraphBroker.Gateway

/-!
# Media types

A media type is a type, a slash, a subtype and parameters after semicolons.  A
body is taken as JSON if its type is `application` and its subtype is `json` or
ends in `+json`; letter case and parameters do not matter, but the parameters
have to be well-formed.
-/

/-- A type and a subtype, with what follows its last plus sign. -/
structure MediaType where
  type : String
  subtype : String
  suffix : Option String
  deriving Repr, DecidableEq

namespace MediaType

/-- A character of a token. -/
def isTokenChar (c : Char) : Bool :=
  c.isAlphanum || "!#$%&'*+-.^_\x60|~".toList.contains c

/-- A character that may stand in the value of a header. -/
def isHeaderChar (c : Char) : Bool :=
  c == '\t' || (0x20 ≤ c.toNat && c.toNat < 0x7F)

/-- Skip a token, and give what follows it. -/
def afterToken (chars : List Char) : List Char :=
  chars.dropWhile isTokenChar

/-- What follows the closing quote of a value that is not empty. -/
def afterQuoted? (chars : List Char) : Option (List Char) :=
  let closes (c : Char) : Bool := c == '"'
  match chars with
  | [] => none
  | first :: rest =>
      if 0x1F < first.toNat then
        match rest.dropWhile fun c => !closes c && 0x1F < c.toNat with
        | quote :: after => if closes quote then some after else none
        | [] => none
      else
        none

/-- The rest after a parameter's value: nothing, or what follows the semicolon. -/
def afterValue? (chars : List Char) : Option (List Char) :=
  match chars with
  | '"' :: inside => do
      let after ← afterQuoted? inside
      match after.dropWhile (· == ' ') with
      | [] => some []
      | ';' :: rest => some rest
      | _ => none
  | _ =>
      match afterToken chars with
      | [] => some []
      | ';' :: rest => if rest.length + 1 < chars.length then some rest else none
      | _ => none

/-- Parameters are well-formed: each has a name, and a value after an equals sign. -/
def validParameters : Nat → List Char → Bool
  | 0, chars => chars.isEmpty
  | fuel + 1, chars =>
      match chars.dropWhile (· == ' ') with
      | [] => true
      | first :: rest =>
          match isTokenChar first, afterToken (first :: rest) with
          | true, '=' :: value =>
              match afterValue? value with
              | some rest => validParameters fuel rest
              | none => false
          | _, _ => false

/-- Cut a subtype at its last plus sign, unless it begins with it. -/
def splitSuffix (chars : List Char) : List Char × Option (List Char) :=
  let suffix := (chars.reverse.takeWhile (· != '+')).reverse
  if suffix.length + 1 < chars.length then
    (chars.take (chars.length - suffix.length - 1), some suffix)
  else
    (chars, none)

/-- Read a media type. -/
def parse? (text : String) : Option MediaType :=
  let chars := text.toList.map Char.toLower
  let type := chars.takeWhile isTokenChar
  match chars.drop type.length with
  | '/' :: rest =>
      let name := rest.takeWhile isTokenChar
      let parameters := rest.drop name.length
      let valid :=
        match parameters with
        | [] => true
        | ';' :: parameters => !name.isEmpty && validParameters parameters.length parameters
        | _ => false
      if type.isEmpty || !valid then
        none
      else
        let (subtype, suffix) := splitSuffix name
        some ⟨String.ofList type, String.ofList subtype, suffix.map String.ofList⟩
  | _ => none

/-- Bodies of this type are read as JSON. -/
def isJson (mediaType : MediaType) : Bool :=
  mediaType.type == "application"
    && (mediaType.subtype == "json" || mediaType.suffix == some "json")

end MediaType

/-- The value of a content type header announces JSON. -/
def announcesJson (value : List UInt8) : Bool :=
  let chars := value.map fun byte => Char.ofNat byte.toNat
  if chars.all MediaType.isHeaderChar then
    ((MediaType.parse? (String.ofList chars)).map MediaType.isJson).getD false
  else
    false

end GraphBroker.Gateway
