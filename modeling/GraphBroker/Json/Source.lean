import GraphBroker.Json.Document
import GraphBroker.Json.Token
import GraphBroker.Text.Utf8

namespace GraphBroker.Json

/-!
# Documents from text

Tokens are put together one at a time.  The containers that are open form a
stack; what follows a mistake is not read, and the containers open at that place
stay unclosed.
-/

/-- The greatest number of containers around a value, itself included if it is one. -/
def depthLimit : Nat := 127

/-- A container as far as it has been read, its contents newest first. -/
inductive OpenContainer where
  | list (items : List Document)
  /-- A table, and the key whose value is being read. -/
  | table (members : List (Option String × Document)) (key : Option (Option String))

/-- What may come next. -/
inductive Await where
  | value
  | itemOrEnd
  | keyOrEnd
  | key
  | colon
  | separator
  /-- Nothing: the document is complete. -/
  | nothing
  deriving Repr, DecidableEq

/-- A document as far as it has been read. -/
structure Draft where
  /-- The open containers, innermost first. -/
  containers : List OpenContainer
  /-- How many there are. -/
  depth : Nat
  await : Await
  root : Option Document
  /-- Something came that may not come; the rest is not read. -/
  stuck : Bool

/-- A JSON text: its document, and whether nothing but blanks follows it. -/
structure Source where
  root : Document
  ended : Bool

namespace OpenContainer

/-- Put a value into a container. -/
def place (container : OpenContainer) (value : Document) : OpenContainer :=
  match container with
  | .list items => .list (value :: items)
  | .table members (some (some key)) => .table ((some key, value) :: members) none
  | .table members _ => .table ((none, .unreadable true) :: members) none

/-- The document of a container whose closing bracket has been read. -/
def close : OpenContainer → Document
  | .list items => .list items.reverse true
  | .table members _ => .table members.reverse true

/-- The document of a container in which the text went wrong, with what went wrong as its end. -/
def breakOff (container : OpenContainer) (last : Option Document) : Document :=
  match container, last with
  | .list items, none => .list items.reverse false
  | .list items, some last => .list (last :: items).reverse false
  | .table members none, none => .table members.reverse false
  | .table members key, last =>
      .table ((key.getD none, last.getD (.unreadable false)) :: members).reverse false

end OpenContainer

namespace Draft

/-- Nothing read yet. -/
def start : Draft :=
  ⟨[], 0, .value, none, false⟩

/-- Stop reading. -/
def stop (draft : Draft) : Draft :=
  { draft with stuck := true }

/-- Add a complete value where one may come. -/
def place (draft : Draft) (value : Document) : Draft :=
  match draft.containers with
  | [] => { draft with root := some value, await := .nothing }
  | container :: outer =>
      { draft with containers := container.place value :: outer, await := .separator }

/-- A value came where none may come.  In the place of a key it is kept as a member without one. -/
def misplace (draft : Draft) (value : Document) : Draft :=
  match draft.await, draft.containers with
  | .keyOrEnd, .table members key :: outer | .key, .table members key :: outer =>
      { draft with
        containers := .table ((none, value) :: members) key :: outer
        stuck := true }
  | _, _ => draft.stop

/-- A value came. -/
def value (draft : Draft) (value : Document) : Draft :=
  match draft.await with
  | .value | .itemOrEnd => draft.place value
  | _ => draft.misplace value

/-- A container was opened. -/
def openContainer (draft : Draft) (container : OpenContainer) (await : Await) : Draft :=
  match draft.await with
  | .value | .itemOrEnd =>
      { draft with
        containers := container :: draft.containers
        depth := draft.depth + 1
        await := await }
  | _ => draft.misplace (container.breakOff none)

/-- The innermost container was closed.  One that is nested too deep has no value. -/
def closeContainer (draft : Draft) : Draft :=
  match draft.containers with
  | [] => draft.stop
  | container :: outer =>
      let value := if depthLimit < draft.depth then .unreadable true else container.close
      { draft with containers := outer, depth := draft.depth - 1 }.place value

/-- A text came: a key or a value. -/
def text (draft : Draft) (value : Option String) : Draft :=
  match draft.await, draft.containers with
  | .keyOrEnd, .table members _ :: outer | .key, .table members _ :: outer =>
      { draft with containers := .table members (some value) :: outer, await := .colon }
  | _, _ =>
      draft.value (match value with
        | some value => .text value
        | none => .unreadable true)

/-- Read one more token. -/
def step (draft : Draft) (token : Token) : Draft :=
  if draft.stuck then
    draft
  else
    match token with
    | .null => draft.value .null
    | .flag value => draft.value (.flag value)
    | .number (some value) => draft.value (.number value)
    | .number none => draft.value (.unreadable true)
    | .text value => draft.text value
    | .openList => draft.openContainer (.list []) .itemOrEnd
    | .openTable => draft.openContainer (.table [] none) .keyOrEnd
    | .closeList =>
        match draft.await, draft.containers with
        | .itemOrEnd, .list _ :: _ | .separator, .list _ :: _ => draft.closeContainer
        | _, _ => draft.stop
    | .closeTable =>
        match draft.await, draft.containers with
        | .keyOrEnd, .table _ _ :: _ | .separator, .table _ _ :: _ => draft.closeContainer
        | _, _ => draft.stop
    | .comma =>
        match draft.await, draft.containers with
        | .separator, .list _ :: _ => { draft with await := .value }
        | .separator, .table _ _ :: _ => { draft with await := .key }
        | _, _ => draft.stop
    | .colon =>
        match draft.await with
        | .colon => { draft with await := .value }
        | _ => draft.stop
    | .stray => draft.stop

/-- Break off the open containers from the innermost outwards. -/
def breakOff : Nat → Option Document → List OpenContainer → Document
  | _, last, [] => last.getD (.unreadable false)
  | depth, last, container :: outer =>
      let broken :=
        if depthLimit < depth then .unreadable false else container.breakOff last
      breakOff (depth - 1) (some broken) outer

/-- The text read, once its tokens have ended. -/
def finish (draft : Draft) : Source :=
  match draft.root with
  | some root => ⟨root, !draft.stuck⟩
  | none => ⟨breakOff draft.depth none draft.containers, false⟩

end Draft

namespace Source

/-- The document of a token sequence. -/
def ofTokens (tokens : List Token) : Source :=
  (tokens.foldl Draft.step Draft.start).finish

/-- The document of a character sequence with holes. -/
def ofUnits (units : List (Option Char)) : Source :=
  ofTokens (tokens units)

/-- The document of a byte sequence. -/
def ofBytes (bytes : List UInt8) : Source :=
  ofUnits (Text.Utf8.units bytes)

/-- The document of a text. -/
def ofText (text : String) : Source :=
  ofUnits (text.toList.map some)

end Source

end GraphBroker.Json
