import GraphBroker.Admin.Call
import GraphBroker.Text.Base64
import GraphBroker.Text.Utf8

namespace GraphBroker.Gateway

/-!
# Basic authentication

The value of an authorization header is the word `Basic`, in any letter case, a
space, and the Base64 form of a name, a colon and a password.  The name ends at
the first colon.
-/

/-- The lower-case form of an ASCII byte. -/
def lowerByte (byte : UInt8) : UInt8 :=
  if 0x41 ≤ byte && byte ≤ 0x5A then byte + 0x20 else byte

/-- Cut a text at its first colon. -/
def splitAtColon? (text : List Char) : Option (String × String) :=
  let before := text.takeWhile (· != ':')
  match text.drop before.length with
  | [] => none
  | _ :: after => some (String.ofList before, String.ofList after)

/-- The Base64 part of a header's value, if its scheme is `Basic`. -/
def encodedPart? (value : List UInt8) : Option (List UInt8) :=
  let word := Text.Utf8.encode "basic"
  let scheme := value.take word.length
  match value.drop word.length with
  | space :: rest =>
      if space == 0x20 && scheme.map lowerByte == word then
        match rest.dropWhile (· == 0x20) with
        | [] => none
        | encoded => some encoded
      else
        none
  | [] => none

/-- The login that a header's value presents. -/
def presented? (value : List UInt8) : Option Login := do
  let encoded ← encodedPart? value
  let text ← Text.Utf8.decode? encoded
  let bytes ← Text.Base64.decode? text
  let plain ← Text.Utf8.decode? bytes
  let (username, password) ← splitAtColon? plain.toList
  some { username, password }

/-- The login that the first of a request's authorization headers presents. -/
def firstPresented? (values : List (List UInt8)) : Option Login :=
  values.head?.bind presented?

/-- The login presented is the one required. -/
def accepts (required : Login) (presented : Login) : Bool :=
  required.username == presented.username && required.password == presented.password

end GraphBroker.Gateway
