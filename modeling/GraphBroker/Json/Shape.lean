import GraphBroker.Json.Reader

namespace GraphBroker.Json

/-!
# Record shapes

A record shape lists the members of a record in their order of declaration.
From it come both directions: a record is written as a table, without the
members that may be left out; and it is read from a table in any order, where
members that the shape does not know are skipped, or from a list in the order
of declaration.
-/

/-- One member of a record. -/
structure Member (α : Type) where
  name : String
  codec : Codec α
  /-- The value of a member that is left out, if it may be. -/
  absent : Option α
  /-- The member is left out when it is written with this value. -/
  omits : α → Bool

namespace Member

/-- A member that must be there. -/
def required (name : String) (codec : Codec α) : Member α :=
  ⟨name, codec, none, fun _ => false⟩

/-- A member that may be left out when read and is always written. -/
def defaulted (name : String) (codec : Codec α) (value : α) : Member α :=
  ⟨name, codec, some value, fun _ => false⟩

/-- A member that is written only if it has a value. -/
def optional (name : String) (codec : Codec α) : Member (Option α) :=
  ⟨name, codec.optional, some none, Option.isNone⟩

/-- A truth value that is written only if it is true. -/
def mark (name : String) : Member Bool :=
  ⟨name, .flag, some false, fun value => !value⟩

end Member

/-- The members of a record, as a type of nested pairs. -/
inductive Shape : Type → Type 1 where
  | nil : Shape Unit
  | cons {α β : Type} (member : Member α) (rest : Shape β) : Shape (α × β)

namespace Shape

/-- How many members a shape has. -/
def size : Shape ρ → Nat
  | .nil => 0
  | .cons _ rest => rest.size + 1

/-- A place for each member, empty until it is read. -/
def Slots : Shape ρ → Type
  | .nil => Unit
  | .cons (α := α) _ rest => Option α × rest.Slots

/-- Every place empty. -/
def empty : (shape : Shape ρ) → shape.Slots
  | .nil => ()
  | .cons _ rest => (none, rest.empty)

/-- The places of a longer shape. -/
def Slots.cons
    {member : Member α}
    {rest : Shape β}
    (held : Option α)
    (others : rest.Slots) :
    (Shape.cons member rest).Slots :=
  (held, others)

/-- Read the value of a member into its place.  A member that the shape does not know is skipped. -/
def fill : (shape : Shape ρ) → String → Document → shape.Slots → Except ReadError shape.Slots
  | .nil, _, value, slots => if value.whole then .ok slots else .error .malformed
  | .cons member rest, name, value, slots =>
      if name = member.name then
        match slots.1 with
        | some _ => .error (.here (.duplicateField name))
        | none =>
            match member.codec.read value with
            | .ok value => .ok (Slots.cons (some value) slots.2)
            | .error error => .error (error.within (.member name))
      else
        (rest.fill name value slots.2).map (Slots.cons slots.1)

/-- Read members in the order of their text. -/
def fillAll (shape : Shape ρ) :
    List (Option String × Document) → shape.Slots → Except ReadError shape.Slots
  | [], slots => .ok slots
  | (none, _) :: _, _ => .error .malformed
  | (some name, value) :: rest, slots =>
      match shape.fill name value slots with
      | .ok slots => shape.fillAll rest slots
      | .error error => .error error

/-- The record, once every member has been read that is there. -/
def finish : (shape : Shape ρ) → shape.Slots → Except ReadError ρ
  | .nil, _ => .ok ()
  | .cons member rest, slots =>
      match slots.1.or member.absent with
      | none => .error (.here (.missingField member.name))
      | some value => (rest.finish slots.2).map fun others => (value, others)

/-- Read members from the items of a list: the record and the items left over. -/
def readItems (expected : String) (closed : Bool) :
    (shape : Shape ρ) → Nat → List Document → Except ReadError (ρ × List Document)
  | .nil, _, items => .ok ((), items)
  | .cons member rest, index, [] =>
      if closed then
        match member.absent with
        | none => .error (.here (.wrongLength index expected))
        | some value =>
            (rest.readItems expected closed (index + 1) []).map fun (others, left) =>
              ((value, others), left)
      else
        .error .malformed
  | .cons member rest, index, item :: items =>
      match member.codec.read item with
      | .ok value =>
          (rest.readItems expected closed (index + 1) items).map fun (others, left) =>
            ((value, others), left)
      | .error error => .error (error.within (.item index))

/-- The words for a record of this shape when a list has too few items. -/
def lengthExpectation (shape : Shape ρ) (title : String) : String :=
  let count := shape.size
  title ++ " with " ++ toString count ++ (if count = 1 then " element" else " elements")

/-- Read a record of which messages speak by a title. -/
def read (shape : Shape ρ) (title : String) : Reader ρ
  | .table members closed => do
      let slots ← shape.fillAll members shape.empty
      if closed then shape.finish slots else .error .malformed
  | .list items closed => do
      let (record, left) ← shape.readItems (shape.lengthExpectation title) closed 0 items
      if !left.isEmpty then .error (.here (.surplus items.length))
      else if closed then .ok record
      else .error .malformed
  | other => Reader.expected title other

/-- The members of a record that are written. -/
def write : (shape : Shape ρ) → ρ → List (String × Document)
  | .nil, _ => []
  | .cons member rest, (value, others) =>
      if member.omits value then rest.write others
      else (member.name, member.codec.write value) :: rest.write others

end Shape

/-- The codec of a record type: its shape, and how the nested pairs make up the record. -/
def Codec.record
    (title : String)
    (shape : Shape ρ)
    (pack : ρ → α)
    (unpack : α → ρ) :
    Codec α where
  write value := .ofMembers (shape.write (unpack value))
  read document := (shape.read title document).map pack

end GraphBroker.Json
