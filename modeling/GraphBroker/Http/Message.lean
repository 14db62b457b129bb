import GraphBroker.Text.Natural
import GraphBroker.Text.Split
import GraphBroker.Text.Utf8

namespace GraphBroker.Http

/-!
# Messages

A message is a head and a body.  The head is a first line and then fields, one a
line, up to an empty line.  The fields tell where the body ends: after a number
of bytes, after a chunk without any, or with the connection.
-/

/-- What the bytes amount to that have arrived so far. -/
inductive Arrival (α : Type) where
  /-- They may become something when more arrive. -/
  | unfinished
  /-- They cannot become anything. -/
  | malformed
  /-- They hold something whole, and what comes after it. -/
  | whole (value : α) (rest : List UInt8)

/-- A field: its name in lower case, and its value. -/
abbrev Field : Type := String × List UInt8

/-- The first line of a message and its fields. -/
structure Head where
  opening : String
  fields : List Field

/-- A message. -/
structure Message where
  head : Head
  body : List UInt8

/-- Where a body ends. -/
inductive Extent where
  | length (count : Nat)
  | chunked
  | untilClosed
  deriving Repr, DecidableEq

/-- Go on with what is whole. -/
def Arrival.andThen (arrival : Arrival α) (next : α → List UInt8 → Arrival β) : Arrival β :=
  match arrival with
  | .unfinished => .unfinished
  | .malformed => .malformed
  | .whole value rest => next value rest

/-! ## Lines -/

/-- The byte that ends a line. -/
def lineFeed : UInt8 := 0x0A

/-- The byte that may stand before the end of a line. -/
def carriageReturn : UInt8 := 0x0D

/-- The bytes that end a line. -/
def lineEnd : List UInt8 := [carriageReturn, lineFeed]

/-- The first line, without its end, and what comes after it. -/
def line? (bytes : List UInt8) : Option (List UInt8 × List UInt8) :=
  let line := bytes.takeWhile (· != lineFeed)
  match bytes.drop line.length with
  | [] => none
  | _ :: rest => some (line.filter (· != carriageReturn), rest)

/-- A line is taken off: what comes after it is shorter. -/
theorem length_lt_of_line?
    {bytes line rest : List UInt8}
    (found : line? bytes = some (line, rest)) :
    rest.length < bytes.length := by
  simp only [line?] at found
  split at found
  · cases found
  · rename_i after equation
    simp only [Option.some.injEq, Prod.mk.injEq] at found
    have lengths := congrArg List.length equation
    simp only [List.length_drop, List.length_cons] at lengths
    rw [← found.2]
    omega

/-- The lines before an empty one. -/
def linesOnto (lines : List (List UInt8)) (bytes : List UInt8) : Arrival (List (List UInt8)) :=
  match found : line? bytes with
  | none => .unfinished
  | some ([], rest) => .whole lines.reverse rest
  | some (line, rest) =>
      have := length_lt_of_line? found
      linesOnto (line :: lines) rest
  termination_by bytes.length

/-! ## Heads -/

namespace Head

/-- A byte that may surround the value of a field. -/
def isPadding (byte : UInt8) : Bool :=
  byte == 0x20 || byte == 0x09

/-- The field in a line. -/
def field? (line : List UInt8) : Option Field := do
  let name := line.takeWhile (· != 0x3A)
  let text ← Text.Utf8.decode? name
  match line.drop name.length with
  | [] => none
  | _ :: value =>
      let trimmed := ((value.dropWhile isPadding).reverse.dropWhile isPadding).reverse
      some (String.ofList (text.toList.map Char.toLower), trimmed)

/-- The head in the lines before an empty one. -/
def ofLines? : List (List UInt8) → Option Head
  | [] => none
  | first :: lines => do
      let opening ← Text.Utf8.decode? first
      let fields ← lines.mapM field?
      some { opening, fields }

/-- Read a head.  Empty lines before it do not count. -/
def read (bytes : List UInt8) : Arrival Head :=
  let started := bytes.dropWhile fun byte => byte == lineFeed || byte == carriageReturn
  (linesOnto [] started).andThen fun lines rest =>
    match ofLines? lines with
    | none => .malformed
    | some head => .whole head rest

/-- The words of the first line. -/
def words (head : Head) : List String :=
  (Text.splitChars (· == ' ') head.opening.toList).map String.ofList

/-- What the fields of one name list between commas, in lower case. -/
def listed (head : Head) (name : String) : List (List Char) :=
  head.fields.flatMap fun (other, value) =>
    if other = name then
      (Text.splitChars (· == ',') (Text.Utf8.decodeLossy value).toList).map fun item =>
        (item.filter (· != ' ')).map Char.toLower
    else
      []

/-- Where the body ends, unless the fields contradict each other; without any it ends as usual. -/
def extent? (head : Head) (usual : Extent) : Option Extent :=
  match head.listed "transfer-encoding", head.listed "content-length" with
  | [], [] => some usual
  | [], first :: others =>
      if others.all (· == first) ∧ first ≠ [] then (Text.digitsValue? 10 first).map .length
      else none
  | codings, _ => if codings.getLast? = some "chunked".toList then some .chunked else none

/-- The bytes of a head. -/
def render (head : Head) : List UInt8 :=
  Text.Utf8.encode head.opening ++ lineEnd
    ++ (head.fields.flatMap fun (name, value) => Text.Utf8.encode (name ++ ": ") ++ value ++ lineEnd)
    ++ lineEnd

end Head

/-! ## Bodies -/

/-- The number of bytes in a chunk, from the line before it. -/
def chunkSize? (line : List UInt8) : Option Nat :=
  let digits := (Text.Utf8.decodeLossy line).toList.takeWhile fun c => c != ';' && c != ' '
  if digits.isEmpty then none else Text.digitsValue? 16 digits

/-- The bytes of the chunks, after those already found, newest first. -/
def chunksOnto (chunks : List (List UInt8)) (bytes : List UInt8) : Arrival (List UInt8) :=
  match found : line? bytes with
  | none => .unfinished
  | some (line, rest) =>
      match chunkSize? line with
      | none => .malformed
      | some 0 => (linesOnto [] rest).andThen fun _ after => .whole chunks.reverse.flatten after
      | some size =>
          match ended : line? (rest.drop size) with
          | none => .unfinished
          | some ([], after) =>
              have : after.length < bytes.length :=
                Nat.lt_trans
                  (Nat.lt_of_lt_of_le (length_lt_of_line? ended) (List.drop_sublist size rest).length_le)
                  (length_lt_of_line? found)
              chunksOnto (rest.take size :: chunks) after
          | some _ => .malformed
  termination_by bytes.length

/-- The bytes of a body, where it is known whether the connection has ended. -/
def Extent.read (extent : Extent) (ended : Bool) (bytes : List UInt8) : Arrival (List UInt8) :=
  match extent with
  | .length count =>
      if bytes.length < count then .unfinished else .whole (bytes.take count) (bytes.drop count)
  | .chunked => chunksOnto [] bytes
  | .untilClosed => if ended then .whole bytes [] else .unfinished

namespace Message

/-- Read a message, where its head says where the body ends. -/
def read (extent? : Head → Option Extent) (ended : Bool) (bytes : List UInt8) : Arrival Message :=
  (Head.read bytes).andThen fun head rest =>
    match extent? head with
    | none => .malformed
    | some extent => (extent.read ended rest).andThen fun body after => .whole { head, body } after

/-- The bytes of a message. -/
def render (message : Message) : List UInt8 :=
  message.head.render ++ message.body

end Message

end GraphBroker.Http
