import GraphBroker.Json.Reader
import GraphBroker.Proofs.Json.Drafts
import GraphBroker.Proofs.Keyed

namespace GraphBroker.Json

/-!
# Values that are read back

A value is written as a document and a document is read as a value.  This module
says which values come back as they were: those whose numbers are integers and
whose objects list their keys in order, that are not nested too deep, and that
have no object whose first key makes it stand for a text.
-/

/-! ## Parts of a value -/

/-- The items of an array or the values of an object. -/
def parts : Json → List Json
  | .array items => items
  | .object members => members.map Prod.snd
  | .null | .bool _ | .number _ | .text _ => []

/-- Something holds of a value, of its parts, of theirs, and so on. -/
inductive Throughout (property : Json → Prop) : Json → Prop where
  | intro {value : Json}
      (here : property value)
      (inside : ∀ part ∈ value.parts, Throughout property part) :
      Throughout property value

/-- What holds of a value without parts holds throughout it. -/
theorem Throughout.of_undivided
    {property : Json → Prop}
    {value : Json}
    (here : property value)
    (undivided : value.parts = []) :
    value.Throughout property := by
  refine .intro here ?_
  rw [undivided]
  intro part member
  cases member

/-- Two properties that hold throughout a value hold throughout it together. -/
theorem Throughout.and
    {first second : Json → Prop}
    {value : Json}
    (holds : value.Throughout first)
    (too : value.Throughout second) :
    value.Throughout fun part => first part ∧ second part := by
  induction holds with
  | intro here inside inductionHypothesis =>
      obtain ⟨also, others⟩ := too
      exact .intro ⟨here, also⟩ fun part member => inductionHypothesis part member (others part member)

theorem isNull_iff
    {value : Json} :
    value.isNull = true ↔ value = .null := by
  cases value <;> simp [isNull]

/-- If the value is a number, it is an integer. -/
def IsIntegral : Json → Prop
  | .number value => value.Integral
  | _ => True

/-- If the value is an object, its keys ascend. -/
def IsSorted : Json → Prop
  | .object members => Ascending members
  | _ => True

/-- The value is no object that stands for the JSON text that it holds. -/
def IsPlain : Json → Prop
  | .object ((key, _) :: _) => key ≠ Reader.embeddedKey
  | _ => True

/-! ## Documents of values -/

namespace Document

/-- The items of a list become documents in order. -/
theorem ofItemsOnto_eq
    (turned : List Document)
    (items : List Json) :
    ofItemsOnto turned items = turned.reverse ++ items.map ofJson := by
  induction items generalizing turned with
  | nil =>
      simp [ofItemsOnto]
  | cons item rest inductionHypothesis =>
      simp [ofItemsOnto, inductionHypothesis]

/-- The members of a table become documents under their names, in order. -/
theorem ofMembersOnto_eq
    (turned : List (Option String × Document))
    (members : List (String × Json)) :
    ofMembersOnto turned members =
      turned.reverse ++ members.map fun member => (some member.1, ofJson member.2) := by
  induction members generalizing turned with
  | nil =>
      simp [ofMembersOnto]
  | cons member rest inductionHypothesis =>
      simp [ofMembersOnto, inductionHypothesis]

@[simp]
theorem ofJson_array
    (items : List Json) :
    ofJson (.array items) = .list (items.map ofJson) true := by
  simp [ofJson, ofItemsOnto_eq]

@[simp]
theorem ofJson_object
    (members : List (String × Json)) :
    ofJson (.object members) =
      .table (members.map fun member => (some member.1, ofJson member.2)) true := by
  simp [ofJson, ofMembersOnto_eq]

/-- A value becomes a document in which nothing is cut off. -/
theorem whole_ofJson
    (value : Json) :
    (ofJson value).whole = true := by
  cases value with
  | null | bool _ | number _ | text _ => rfl
  | array items => simp [whole]
  | object members => simp [whole]

/-- A value with integers only is written in full. -/
theorem legible_ofJson
    {value : Json}
    (integral : value.Throughout IsIntegral) :
    (ofJson value).Legible := by
  induction integral with
  | @intro value here inside inductionHypothesis =>
      cases value with
      | null =>
          exact .null
      | bool value =>
          exact .flag value
      | number value =>
          exact .number here
      | text value =>
          exact .text value
      | array items =>
          rw [ofJson_array]
          refine .list ?_
          intro document member
          obtain ⟨item, inItems, rfl⟩ := List.mem_map.mp member
          exact inductionHypothesis item inItems
      | object members =>
          rw [ofJson_object]
          refine .table ?_ ?_
          · intro member inMembers
            obtain ⟨_, _, rfl⟩ := List.mem_map.mp inMembers
            simp
          · intro member inMembers
            obtain ⟨entry, inEntries, rfl⟩ := List.mem_map.mp inMembers
            exact inductionHypothesis entry.2 (List.mem_map_of_mem inEntries)

/-- A list of legible documents is legible. -/
theorem legible_ofItems
    {items : List Document}
    (legible : ∀ item ∈ items, item.Legible) :
    (ofItems items).Legible :=
  .list legible

/-- A table of legible documents is legible. -/
theorem legible_ofMembers
    {members : List (String × Document)}
    (legible : ∀ member ∈ members, member.2.Legible) :
    (ofMembers members).Legible := by
  refine .table ?_ ?_
  · intro member inTable
    obtain ⟨entry, _, rfl⟩ := List.mem_map.mp inTable
    exact Option.some_ne_none _
  · intro member inTable
    obtain ⟨entry, inMembers, rfl⟩ := List.mem_map.mp inTable
    exact legible entry inMembers

/-! ## Nesting -/

mutual

/-- How many containers of a document stand one inside the other. -/
def nesting : Document → Nat
  | .list items _ => itemsNesting items + 1
  | .table members _ => membersNesting members + 1
  | .null | .flag _ | .number _ | .text _ | .unreadable _ => 0

def itemsNesting : List Document → Nat
  | [] => 0
  | item :: rest => max (nesting item) (itemsNesting rest)

def membersNesting : List (Option String × Document) → Nat
  | [] => 0
  | (_, value) :: rest => max (nesting value) (membersNesting rest)

end

/-- A list nests no deeper than the deepest of its items. -/
theorem itemsNesting_le
    {items : List Document}
    {bound : Nat}
    (each : ∀ item ∈ items, item.nesting ≤ bound) :
    itemsNesting items ≤ bound := by
  induction items with
  | nil =>
      exact Nat.zero_le _
  | cons item rest inductionHypothesis =>
      rw [itemsNesting]
      have here := each item List.mem_cons_self
      have later := inductionHypothesis fun other member => each other (List.mem_cons_of_mem _ member)
      omega

/-- A table nests no deeper than the deepest of its members. -/
theorem membersNesting_le
    {members : List (Option String × Document)}
    {bound : Nat}
    (each : ∀ member ∈ members, member.2.nesting ≤ bound) :
    membersNesting members ≤ bound := by
  induction members with
  | nil =>
      exact Nat.zero_le _
  | cons member rest inductionHypothesis =>
      rw [membersNesting]
      have here := each member List.mem_cons_self
      have later := inductionHypothesis fun other member => each other (List.mem_cons_of_mem _ member)
      omega

/-- Items are left whole where none of them nests too deep. -/
theorem clipItems_eq
    {depth : Nat}
    {items : List Document}
    (same : ∀ item ∈ items, depth + item.nesting ≤ depthLimit → clip depth item = item)
    (shallow : depth + itemsNesting items ≤ depthLimit) :
    clipItems depth items = items := by
  induction items with
  | nil =>
      rfl
  | cons item rest inductionHypothesis =>
      simp only [itemsNesting] at shallow
      have here := same item (by simp) (by omega)
      have others :=
        inductionHypothesis (fun other member => same other (by simp [member])) (by omega)
      rw [clipItems, here, others]

/-- Members are left whole where none of them nests too deep. -/
theorem clipMembers_eq
    {depth : Nat}
    {members : List (Option String × Document)}
    (same : ∀ member ∈ members, depth + member.2.nesting ≤ depthLimit → clip depth member.2 = member.2)
    (shallow : depth + membersNesting members ≤ depthLimit) :
    clipMembers depth members = members := by
  induction members with
  | nil =>
      rfl
  | cons member rest inductionHypothesis =>
      obtain ⟨key, value⟩ := member
      simp only [membersNesting] at shallow
      have here : clip depth value = value := same (key, value) (by simp) (by simp only; omega)
      have others :=
        inductionHypothesis (fun other member => same other (by simp [member])) (by omega)
      rw [clipMembers, here, others]

/-- Nothing is lost of a document that is not nested too deep. -/
theorem Legible.clip_eq
    {document : Document}
    (legible : document.Legible)
    {depth : Nat}
    (shallow : depth + document.nesting ≤ depthLimit) :
    clip depth document = document := by
  induction legible generalizing depth with
  | null | flag _ | number _ | text _ =>
      rfl
  | list legible inductionHypothesis =>
      simp only [nesting] at shallow
      have same := clipItems_eq (fun item member => inductionHypothesis item member)
        (show depth + 1 + _ ≤ depthLimit by omega)
      rw [clip, if_neg (by omega), same]
  | table keyed legible inductionHypothesis =>
      simp only [nesting] at shallow
      have same := clipMembers_eq (fun member inside => inductionHypothesis member inside)
        (show depth + 1 + _ ≤ depthLimit by omega)
      rw [clip, if_neg (by omega), same]

/-- The text of a document that is not nested too deep stands for the document. -/
theorem Legible.ofText_print
    {document : Document}
    (legible : document.Legible)
    (shallow : document.nesting ≤ depthLimit) :
    Source.ofText document.print = ⟨document, true⟩ := by
  rw [Source.ofText, Document.print, String.toList_ofList, Source.ofUnits, legible.tokens_chars,
    legible.ofTokens_tokensOnto, legible.clip_eq (by omega)]

end Document

/-- How many containers of a value stand one inside the other. -/
def nesting (value : Json) : Nat :=
  (Document.ofJson value).nesting

/-! ## Reading -/

namespace Reader

variable {textReader : String → Except ReadError Json}

/-- Items that are read back one by one are read back as a list. -/
theorem valuesOnto_eq
    {items : List Json}
    (same : ∀ item ∈ items, valueWith textReader (Document.ofJson item) = .ok item)
    (read : List Json)
    (index : Nat) :
    valuesOnto textReader read index (items.map Document.ofJson) = .ok (read.reverse ++ items) := by
  induction items generalizing read index with
  | nil =>
      simp [valuesOnto]
  | cons item rest inductionHypothesis =>
      have here := same item (by simp)
      have others := inductionHypothesis (fun other member => same other (by simp [member]))
        (item :: read) (index + 1)
      simp [valuesOnto, here, others]

/-- Members that are read back one by one are read back as a table. -/
theorem membersOnto_eq
    {members : List (String × Json)}
    (same : ∀ member ∈ members, valueWith textReader (Document.ofJson member.2) = .ok member.2)
    (read : List (String × Json)) :
    membersOnto textReader read
        (members.map fun member => (some member.1, Document.ofJson member.2)) =
      .ok (read.reverse ++ members) := by
  induction members generalizing read with
  | nil =>
      simp [membersOnto]
  | cons member rest inductionHypothesis =>
      have here := same member (by simp)
      have others := inductionHypothesis (fun other member => same other (by simp [member]))
        (member :: read)
      simp [membersOnto, here, others]

/-- A plain value whose objects list their keys in order is read as itself. -/
theorem valueWith_ofJson
    {value : Json}
    (sorted : value.Throughout IsSorted)
    (plain : value.Throughout IsPlain) :
    valueWith textReader (Document.ofJson value) = .ok value := by
  have both := sorted.and plain
  clear sorted plain
  induction both with
  | @intro value here inside inductionHypothesis =>
      obtain ⟨ordered, ordinary⟩ := here
      cases value with
      | null | bool value | number value | text value =>
          rfl
      | array items =>
          have same : valuesOnto textReader [] 0 (items.map Document.ofJson) = .ok items :=
            valuesOnto_eq inductionHypothesis [] 0
          simp [valueWith, same]
      | object members =>
          have same : membersOnto textReader []
              (members.map fun member => (some member.1, Document.ofJson member.2)) = .ok members :=
            membersOnto_eq
              (fun member inMembers => inductionHypothesis _ (List.mem_map_of_mem inMembers)) []
          have unembedded : embedded?
              (members.map fun member => (some member.1, Document.ofJson member.2)) = none := by
            cases members with
            | nil =>
                rfl
            | cons member rest =>
                exact if_neg ordinary
          have kept : sortByKey members = members := Keyed.sortByKey_of_ascending ordered
          simp [valueWith, unembedded, same, kept]

end Reader

end GraphBroker.Json
