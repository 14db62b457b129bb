import GraphBroker.Text.Percent
import GraphBroker.Text.Split
import GraphBroker.Text.Utf8

namespace GraphBroker.Text.Form

/-!
# Form fields

Names and values in the encoding of a query: fields stand between ampersands, a
name and its value on the two sides of the first equals sign, a space is a plus
sign, and every byte that is not plain is percent-encoded.  Reading passes over
empty fields and is content with any bytes.
-/

/-- One field of a form. -/
structure Field where
  name : String
  value : String
  deriving Repr, DecidableEq

/-- Bytes that a name or a value keeps. -/
def kept (byte : UInt8) : Bool :=
  let c := Char.ofNat byte.toNat
  c.isAlphanum || c == '*' || c == '-' || c == '.' || c == '_'

/-- A name or a value: a space is written as a plus sign. -/
def encode (text : String) : String :=
  String.ofList <| (Utf8.encode text).flatMap fun byte =>
    if byte == 0x20 then ['+'] else Percent.encodeByte kept byte

/-- Fields with their names. -/
def render (fields : List Field) : String :=
  "&".intercalate (fields.map fun field => encode field.name ++ "=" ++ encode field.value)

/-- The name or the value behind an encoded one. -/
def decode (chars : List Char) : String :=
  let spaced := chars.map fun c => if c = '+' then ' ' else c
  Utf8.decodeLossy (Percent.decode (Utf8.encodeChars spaced))

/-- The field in a piece between two ampersands. -/
def field (piece : List Char) : Field :=
  ⟨decode (piece.takeWhile (· != '=')), decode ((piece.dropWhile (· != '=')).drop 1)⟩

/-- The fields of a query. -/
def parse (query : List Char) : List Field :=
  ((splitChars (· == '&') query).filter fun piece => !piece.isEmpty).map field

end GraphBroker.Text.Form
