import GraphBroker.Json.Basic

namespace GraphBroker.Json

/-!
# JSON as written

A document is JSON before anyone has decided what to make of it: members keep
their order and may repeat, and text that goes wrong somewhere is a document up
to that place.  A part that is well-formed but has no value (a number out of
range, a text that is no Unicode, a container nested too deep) is kept as
`unreadable`, since a reader that skips it need not mind.
-/

/-- JSON in the order of its text, up to where the text goes wrong. -/
inductive Document where
  | null
  | flag (value : Bool)
  | number (value : Number)
  | text (value : String)
  /-- A list, and whether the text reached its closing bracket. -/
  | list (items : List Document) (closed : Bool)
  /-- A table, and whether the text reached its closing brace.  A member without a key stands
  for one whose key is unreadable, or for a value in the place of a key. -/
  | table (members : List (Option String × Document)) (closed : Bool)
  /-- A part without a value, and whether it is at least well-formed. -/
  | unreadable (whole : Bool)

namespace Document

/-- A list with its closing bracket. -/
def ofItems (items : List Document) : Document :=
  .list items true

/-- A table with its closing brace, all its keys readable. -/
def ofMembers (members : List (String × Document)) : Document :=
  .table (members.map fun member => (some member.1, member.2)) true

/-- The text of this part is well-formed, so that it can be skipped. -/
def whole : Document → Bool
  | .list _ closed => closed
  | .table _ closed => closed
  | .unreadable whole => whole
  | _ => true

mutual

/-- Nothing in this part is without a value, so that it can be told what it is. -/
def sound : Document → Bool
  | .list items closed => closed && soundItems items
  | .table members closed => closed && soundMembers members
  | .unreadable _ => false
  | _ => true

/-- No item of a list is without a value. -/
def soundItems : List Document → Bool
  | [] => true
  | item :: rest => item.sound && soundItems rest

/-- No member of a table is without a key or a value. -/
def soundMembers : List (Option String × Document) → Bool
  | [] => true
  | (key, value) :: rest => key.isSome && value.sound && soundMembers rest

end

mutual

/-- A value as it is written, the members of each object in the order of their keys. -/
def ofJson : Json → Document
  | .null => .null
  | .bool value => .flag value
  | .number value => .number value
  | .text value => .text value
  | .array items => .list (ofItemsOnto [] items) true
  | .object members => .table (ofMembersOnto [] members) true

/-- The items of an array after those already turned, which come newest first. -/
def ofItemsOnto (turned : List Document) : List Json → List Document
  | [] => turned.reverse
  | item :: rest => ofItemsOnto (ofJson item :: turned) rest

/-- The members of an object after those already turned, which come newest first. -/
def ofMembersOnto
    (turned : List (Option String × Document)) :
    List (String × Json) → List (Option String × Document)
  | [] => turned.reverse
  | (key, value) :: rest => ofMembersOnto ((some key, ofJson value) :: turned) rest

end

end Document

end GraphBroker.Json
