import GraphBroker.Plan.Basic
import GraphBroker.Proofs.Json.Members
import GraphBroker.Proofs.Json.Values

namespace GraphBroker

open Json

/-!
# What payloads say

A plan finds the names of its databases and users in the payloads of records.  It takes a
name from where the payload gives it.  Where an instance's payload is silent, or the payload
of a binding is `null`, the name that is taken is the empty one; and no name is taken of a
payload that says something else.
-/

namespace Json

/-- What stands in a value for the member of a record with a position and a name. -/
def place? : Json → Nat → String → Option Json
  | .array items, index, _ => items[index]?
  | .object members, _, name => members.lookup name
  | .null, _, _ | .bool _, _, _ | .number _, _, _ | .text _, _, _ => none

/-- A value that may have members. -/
def IsComposed : Json → Prop
  | .array _ | .object _ => True
  | .null | .bool _ | .number _ | .text _ => False

theorem lookup_map_ofJson
    (members : List (String × Json))
    (name : String) :
    (members.map fun member => (some member.1, Document.ofJson member.2)).lookup (some name) =
      (members.lookup name).map Document.ofJson := by
  induction members with
  | nil =>
      rfl
  | cons member rest inductionHypothesis =>
      have same : (some name == some member.1) = (name == member.1) := rfl
      rw [List.map_cons, List.lookup_cons, List.lookup_cons, inductionHypothesis, same]
      cases name == member.1 <;> rfl

theorem place?_ofJson
    (value : Json)
    (index : Nat)
    (name : String) :
    (Document.ofJson value).place? index name = (value.place? index name).map Document.ofJson := by
  cases value with
  | null | bool _ | number _ | text _ =>
      rfl
  | array items =>
      rw [Document.ofJson_array]
      exact List.getElem?_map
  | object members =>
      rw [Document.ofJson_object]
      exact lookup_map_ofJson members name

theorem eq_text_of_read
    {value : Json}
    {text : String}
    (read : Codec.text.read (Document.ofJson value) = .ok text) :
    value = .text text := by
  cases value with
  | text held =>
      cases read
      rfl
  | null | bool _ | number _ =>
      cases read
  | array items =>
      rw [Document.ofJson_array] at read
      cases read
  | object members =>
      rw [Document.ofJson_object] at read
      cases read

/-- Only a composed value is read as a record. -/
theorem composed_of_read
    {shape : Shape ρ}
    {title : String}
    {value : Json}
    {record : ρ}
    (read : shape.read title (Document.ofJson value) = .ok record) :
    value.IsComposed := by
  cases value with
  | array items | object members =>
      trivial
  | null | bool _ | number _ | text _ =>
      cases read

end Json

namespace Plan

/-- What a payload says of a member: the text that it gives, or nothing. -/
inductive Says (payload : Json) (index : Nat) (name : String) : String → Prop where
  | given {text : String}
      (stands : payload.place? index name = some (.text text)) :
      Says payload index name text
  | silent
      (lacking : payload = .null ∨ payload.IsComposed ∧ payload.place? index name = none) :
      Says payload index name ""

/-- The payload of an instance says which database it is for. -/
def NamesDatabase (payload : Json) (database : String) : Prop :=
  Says payload 0 "db_name" database

/-- The payload of a binding says which user it is for, and which database that user may use. -/
inductive NamesUser (payload : Json) : String → String → Prop where
  | given {database username : String}
      (databaseStands : payload.place? 0 "db_name" = some (.text database))
      (usernameStands : payload.place? 2 "username" = some (.text username)) :
      NamesUser payload database username
  | null
      (nothing : payload = .null) :
      NamesUser payload "" ""

/-! ## What is read -/

section

variable {payload : Json}

/-- A projection is the blank one, or is read of a composed value whose members it is drawn from. -/
theorem drawn_of_project
    {title : String}
    {shape : Shape ρ}
    (distinct : shape.names.Nodup)
    {pack : ρ → α}
    {unpack : α → ρ}
    {blank found : α}
    (read : project (Codec.record title shape pack unpack) blank payload = .ok found) :
    (payload = .null ∧ found = blank) ∨
      ∃ members, payload.IsComposed ∧ pack members = found ∧
        shape.Drawn (fun index name => (payload.place? index name).map Document.ofJson) members := by
  unfold project at read
  split at read
  · next null =>
      cases read
      refine Or.inl ⟨?_, rfl⟩
      cases payload <;> first | rfl | cases null
  · obtain ⟨members, inner, same⟩ := map_eq_ok_iff.mp read
    have drawn := Shape.drawn_of_read distinct inner
    have places : (Document.ofJson payload).place? =
        fun index name => (payload.place? index name).map Document.ofJson :=
      funext fun index => funext fun name => place?_ofJson payload index name
    rw [places] at drawn
    exact Or.inr ⟨members, composed_of_read inner, same, drawn⟩

section

variable {index : Nat} {name text : String}
variable
  (given :
    ∀ document, (payload.place? index name).map Document.ofJson = some document →
      Codec.text.read document = .ok text)

include given

/-- A text that may be left out is the one that stands in its place, or empty. -/
theorem says_of_drawn
    (composed : payload.IsComposed)
    (silent : (payload.place? index name).map Document.ofJson = none → some "" = some text) :
    Says payload index name text := by
  cases found : payload.place? index name with
  | none =>
      rw [found] at silent
      cases silent rfl
      exact .silent (Or.inr ⟨composed, found⟩)
  | some value =>
      rw [found] at given
      exact .given (found.trans (congrArg some (eq_text_of_read (given _ rfl))))

/-- A text that must be there is the one that stands in its place. -/
theorem stands_of_drawn
    (required : (payload.place? index name).map Document.ofJson = none → none = some text) :
    payload.place? index name = some (.text text) := by
  cases found : payload.place? index name with
  | none =>
      rw [found] at required
      cases required rfl
  | some value =>
      rw [found] at given
      exact congrArg some (eq_text_of_read (given _ rfl))

end

/-- Whatever site a payload describes, its database is the one that the payload names. -/
theorem namesDatabase_of_site?
    {plan : Plan}
    {site : Site}
    (read : plan.site? payload = .ok site) :
    NamesDatabase payload site.database := by
  unfold site? at read
  split at read
  · obtain ⟨choice, projected, rfl⟩ := map_eq_ok_iff.mp read
    rcases drawn_of_project (by decide) projected with
      ⟨null, rfl⟩ | ⟨⟨database, ⟨⟩⟩, composed, rfl, given, silent, -⟩
    · exact .silent (Or.inl null)
    · exact says_of_drawn given composed silent
  · obtain ⟨choice, projected, rfl⟩ := map_eq_ok_iff.mp read
    rcases drawn_of_project (by decide) projected with
      ⟨null, rfl⟩ | ⟨⟨database, url, username, password, ⟨⟩⟩, composed, rfl, given, silent, -⟩
    · exact .silent (Or.inl null)
    · exact says_of_drawn given composed silent

/-- Whatever credentials a payload holds, their user is the one that the payload names. -/
theorem namesUser_of_credentials
    {credentials : Credentials}
    (read : project Credentials.codec .blank payload = .ok credentials) :
    NamesUser payload credentials.database credentials.username := by
  rcases drawn_of_project (by decide) read with
    ⟨null, rfl⟩ | ⟨⟨database, url, username, password, ⟨⟩⟩, -, rfl, drawn⟩
  · exact .null null
  · obtain ⟨database, databaseRequired, -, -, username, usernameRequired, -⟩ := drawn
    exact .given (stands_of_drawn database databaseRequired)
      (stands_of_drawn username usernameRequired)

end

end Plan

end GraphBroker
