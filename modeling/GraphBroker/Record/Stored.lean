import GraphBroker.Record.Basic
import GraphBroker.Text.Base64
import GraphBroker.Text.Blank

namespace GraphBroker

/-!
# Records as stored text

A record is stored as the Base64 form of its JSON text, so that it needs no
escaping wherever it is put.  Blanks around a stored text do not matter.
-/

/-- Why a stored text is no record. -/
inductive CorruptRecord where
  /-- The text is no Base64.  Where and how it goes wrong is left out. -/
  | base64
  /-- The bytes are no JSON of the record's shape. -/
  | json (error : Json.ReadError)
  /-- The store declines a call by its name. -/
  | declined (call : String)

namespace CorruptRecord

/--
The words for a corrupt record.  A fixed text stands for what the decoder of Base64 says of
the place where a text goes wrong.
-/
def message : CorruptRecord → String
  | .base64 => "base64: <base64 error>"
  | .json error => "json: " ++ error.message
  | .declined call => call ++ " refused"

end CorruptRecord

/-- The stored text of a record. -/
def storedText (codec : Json.Codec α) (record : α) : String :=
  Text.Base64.encode (Text.Utf8.encodeChars (codec.write record).chars)

/-- The record behind a stored text. -/
def readStored (codec : Json.Codec α) (data : String) : Except CorruptRecord α :=
  match Text.Base64.decode? (Text.trim data) with
  | none => .error .base64
  | some bytes => (codec.read.bytes bytes).mapError .json

end GraphBroker
