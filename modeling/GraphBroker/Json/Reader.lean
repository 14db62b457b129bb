import GraphBroker.Json.Printer
import GraphBroker.Json.Problem
import GraphBroker.Json.Source
import GraphBroker.Keyed

namespace GraphBroker.Json

/-!
# Readers and codecs

A reader takes a document apart in the order of its text and stops at the first
problem.  A codec is a reader together with the way to write what it reads.
-/

/-- A way to make a value of a document. -/
abbrev Reader (α : Type) := Document → Except ReadError α

namespace Reader

/-- Fail since another kind of value was expected. -/
def expected (wanted : String) : Reader α
  | .null => .error (.here (.wrongType .null wanted))
  | .flag value => .error (.here (.wrongType (.flag value) wanted))
  | .number value => .error (.here (.wrongType (.number value) wanted))
  | .text value => .error (.here (.wrongType (.text value) wanted))
  | .list _ _ => .error (.here (.wrongType .list wanted))
  | .table _ _ => .error (.here (.wrongType .table wanted))
  | .unreadable _ => .error .malformed

/-- Read a text. -/
def text : Reader String
  | .text value => .ok value
  | other => expected "a string" other

/-- Read a truth value. -/
def flag : Reader Bool
  | .flag value => .ok value
  | other => expected "a boolean" other

/-- Read a natural number below `2 ^ 32`. -/
def natural32 : Reader UInt32
  | .number (.natural value) =>
      if value.toNat < UInt32.size then
        .ok value.toUInt32
      else
        .error (.here (.wrongValue (.number (.natural value)) "u32"))
  | .number (.negative below) => .error (.here (.wrongValue (.number (.negative below)) "u32"))
  | other => expected "u32" other

/-- Read a value, or nothing where `null` stands. -/
def optional (reader : Reader α) : Reader (Option α)
  | .null => .ok none
  | other => (reader other).map some

/-- Read the items from an index on, after those already read, which come newest first. -/
def itemsOnto (reader : Reader α) (read : List α) (index : Nat) :
    List Document → Except ReadError (List α)
  | [] => .ok read.reverse
  | item :: rest =>
      match reader item with
      | .ok value => itemsOnto reader (value :: read) (index + 1) rest
      | .error error => .error (error.within (.item index))

/-- Read a list of values. -/
def list (reader : Reader α) : Reader (List α)
  | .list items closed => do
      let values ← itemsOnto reader [] 0 items
      if closed then .ok values else .error .malformed
  | other => expected "a sequence" other

/-- Read members with any keys, after those already read, which come newest first. -/
def entriesOnto (reader : Reader α) (read : List (String × α)) :
    List (Option String × Document) → Except ReadError (List (String × α))
  | [] => .ok read.reverse
  | (none, _) :: _ => .error .malformed
  | (some key, value) :: rest =>
      match reader value with
      | .ok value => entriesOnto reader ((key, value) :: read) rest
      | .error error => .error (error.within (.member key))

/-- Read a table with any keys.  A later member takes the place of an earlier one. -/
def entries (reader : Reader α) : Reader (List (String × α))
  | .table members closed => do
      let values ← entriesOnto reader [] members
      if closed then .ok (sortByKey values) else .error .malformed
  | other => expected "a map" other

/-- The first key of a table that stands for the JSON text that it holds. -/
def embeddedKey : String := "$serde_json::private::RawValue"

/-- The text that stands for a table, and how many members the table has. -/
def embedded? : List (Option String × Document) → Option (Document × Nat)
  | (some key, held) :: rest => if key = embeddedKey then some (held, rest.length + 1) else none
  | _ => none

/-- Read a JSON text that a table holds.  It has to be the only one of its `count` members. -/
def embedded
    (textReader : String → Except ReadError Json)
    (count : Nat)
    (closed : Bool) :
    Reader Json
  | .text held =>
      match textReader held with
      | .error error => .error (.here (.refused error.message))
      | .ok value =>
          if !closed then .error .malformed
          else if 1 < count then .error (.here (.surplusMembers count))
          else .ok value
  | other => (expected "raw value" other).mapError fun error => error.within (.member embeddedKey)

mutual

/-- Read any value at all, where `textReader` reads the texts that stand for tables. -/
def valueWith (textReader : String → Except ReadError Json) : Reader Json
  | .null => .ok .null
  | .flag value => .ok (.bool value)
  | .number value => .ok (.number value)
  | .text value => .ok (.text value)
  | .list items closed =>
      match valuesOnto textReader [] 0 items with
      | .ok values => if closed then .ok (.array values) else .error .malformed
      | .error error => .error error
  | .table members closed =>
      match embedded? members with
      | some (held, count) => embedded textReader count closed held
      | none =>
          match membersOnto textReader [] members with
          | .ok members => if closed then .ok (.object (sortByKey members)) else .error .malformed
          | .error error => .error error
  | .unreadable _ => .error .malformed

/-- Read the items of an array from an index on, after those already read. -/
def valuesOnto (textReader : String → Except ReadError Json) (read : List Json) (index : Nat) :
    List Document → Except ReadError (List Json)
  | [] => .ok read.reverse
  | item :: rest =>
      match valueWith textReader item with
      | .ok value => valuesOnto textReader (value :: read) (index + 1) rest
      | .error error => .error (error.within (.item index))

/-- Read the members of an object, after those already read. -/
def membersOnto (textReader : String → Except ReadError Json) (read : List (String × Json)) :
    List (Option String × Document) → Except ReadError (List (String × Json))
  | [] => .ok read.reverse
  | (none, _) :: _ => .error .malformed
  | (some key, item) :: rest =>
      match valueWith textReader item with
      | .ok value => membersOnto textReader ((key, value) :: read) rest
      | .error error => .error (error.within (.member key))

end

/-- Read a whole text: nothing but blanks may follow the document. -/
def source (reader : Reader α) (text : Source) : Except ReadError α :=
  match reader text.root with
  | .ok value => if text.ended then .ok value else .error .malformed
  | .error error => .error error.inText

/-- Read any value from a text.  A text inside it is shorter than itself. -/
def valueOfText (text : String) : Except ReadError Json :=
  let textReader (held : String) : Except ReadError Json :=
    if held.length < text.length then valueOfText held else .error .malformed
  (valueWith textReader).source (Source.ofText text)
termination_by text.length

/-- Read any value at all. -/
def value : Reader Json :=
  valueWith valueOfText

/-- Read the bytes of a JSON text. -/
def bytes (reader : Reader α) (bytes : List UInt8) : Except ReadError α :=
  reader.source (Source.ofBytes bytes)

/-- Read a JSON text. -/
def jsonText (reader : Reader α) (text : String) : Except ReadError α :=
  reader.source (Source.ofText text)

/-- Read a value that has been read as JSON before. -/
def json (reader : Reader α) (value : Json) : Except ReadError α :=
  reader (Document.ofJson value)

end Reader

/-- A reader and a writer for the same values. -/
structure Codec (α : Type) where
  write : α → Document
  read : Reader α

namespace Codec

/-- Texts. -/
def text : Codec String :=
  ⟨.text, Reader.text⟩

/-- Truth values. -/
def flag : Codec Bool :=
  ⟨.flag, Reader.flag⟩

/-- Natural numbers below `2 ^ 32`. -/
def natural32 : Codec UInt32 :=
  ⟨fun value => .number (.natural value.toUInt64), Reader.natural32⟩

/-- Any value. -/
def value : Codec Json :=
  ⟨Document.ofJson, Reader.value⟩

/-- A value, or `null` for nothing. -/
def optional (codec : Codec α) : Codec (Option α) where
  write
    | none => .null
    | some value => codec.write value
  read := Reader.optional codec.read

/-- A list of values. -/
def list (codec : Codec α) : Codec (List α) where
  write values := .ofItems (values.map codec.write)
  read := Reader.list codec.read

/-- The JSON text of a value. -/
def print (codec : Codec α) (value : α) : String :=
  (codec.write value).print

end Codec

end GraphBroker.Json
