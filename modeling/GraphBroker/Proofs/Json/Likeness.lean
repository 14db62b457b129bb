import GraphBroker.Proofs.Fallible
import GraphBroker.Proofs.Json.Shape
import GraphBroker.Proofs.Json.Values
import Mathlib.Data.List.Forall2

namespace GraphBroker.Json

/-!
# Values that differ in a few places

Two values may be the same but for what stands under certain names.  A record is read
from both of them alike: with the same error, or as two records that differ only in
the members of these names.  Each member says for itself which of its values pass for
each other; the shape puts that together.
-/

/-! ## Values that pass for each other -/

section

variable {α : Type}

/--
Lists whose items pass for each other, each by the name of its column; beyond the
columns the items are the same.
-/
inductive InColumns (alike : String → α → α → Prop) : List String → List α → List α → Prop where
  | nil (columns : List String) :
      InColumns alike columns [] []
  | cons {name : String} {columns : List String} {one other : α} {items others : List α}
      (here : alike name one other)
      (later : InColumns alike columns items others) :
      InColumns alike (name :: columns) (one :: items) (other :: others)
  | beyond (items : List α) :
      InColumns alike [] items items

/-- Members with the same keys, whose values pass for each other under them. -/
def ByName (alike : String → α → α → Prop) :
    List (String × α) → List (String × α) → Prop :=
  List.Forall₂ fun one other => one.1 = other.1 ∧ alike one.1 one.2 other.2

theorem InColumns.length_eq
    {alike : String → α → α → Prop}
    {columns : List String}
    {items others : List α}
    (same : InColumns alike columns items others) :
    items.length = others.length := by
  induction same with
  | nil columns => rfl
  | cons here later inductionHypothesis => simp [inductionHypothesis]
  | beyond items => rfl

end

/--
Values that are the same, or objects or arrays that are the same but for what stands
under names that cover it, or in the columns of these names.
-/
inductive SameBut (covers : String → Json → Json → Prop) (columns : List String) :
    Json → Json → Prop where
  | same (value : Json) :
      SameBut covers columns value value
  | object {members others : List (String × Json)}
      (alike : ByName covers members others) :
      SameBut covers columns (.object members) (.object others)
  | array {items others : List Json}
      (alike : InColumns covers columns items others) :
      SameBut covers columns (.array items) (.array others)

theorem ByName.refl
    {alike : String → Json → Json → Prop}
    (refl : ∀ name value, alike name value value)
    (members : List (String × Json)) :
    ByName alike members members :=
  List.forall₂_same.mpr fun member _ => ⟨rfl, refl member.1 member.2⟩

theorem InColumns.refl
    {alike : String → Json → Json → Prop}
    (refl : ∀ name value, alike name value value)
    (columns : List String)
    (items : List Json) :
    InColumns alike columns items items := by
  induction columns generalizing items with
  | nil =>
      exact .beyond items
  | cons name columns inductionHypothesis =>
      cases items with
      | nil => exact .nil _
      | cons item rest => exact .cons (refl name item) (inductionHypothesis rest)

namespace Shape

/-! ## Records that pass for each other -/

/-- For each member of a record, which of its values pass for each other. -/
def Likeness : Shape ρ → Type
  | .nil => Unit
  | .cons (α := α) _ rest => (α → α → Prop) × rest.Likeness

/-- Records whose members pass for each other. -/
def Alike : (shape : Shape ρ) → shape.Likeness → ρ → ρ → Prop
  | .nil, _, _, _ => True
  | .cons _ rest, likeness, one, other =>
      likeness.1 one.1 other.1 ∧ rest.Alike likeness.2 one.2 other.2

/-- Places that are filled alike. -/
def SlotsAlike : (shape : Shape ρ) → shape.Likeness → shape.Slots → shape.Slots → Prop
  | .nil, _, _, _ => True
  | .cons _ rest, likeness, one, other =>
      Option.Rel likeness.1 one.1 other.1 ∧ rest.SlotsAlike likeness.2 one.2 other.2

/-- What passes for each other under the name of a member is read as values that do. -/
def Respects (alike : String → Json → Json → Prop) : (shape : Shape ρ) → shape.Likeness → Prop
  | .nil, _ => True
  | .cons member rest, likeness =>
      (∀ {one other}, alike member.name one other →
        Matches likeness.1 (member.codec.read.json one) (member.codec.read.json other)) ∧
      (∀ value ∈ member.absent, likeness.1 value value) ∧
      rest.Respects alike likeness.2

section

variable {alike : String → Json → Json → Prop}

theorem slotsAlike_empty
    (shape : Shape ρ)
    (likeness : shape.Likeness) :
    shape.SlotsAlike likeness shape.empty shape.empty := by
  induction shape with
  | nil => exact True.intro
  | cons member rest inductionHypothesis => exact ⟨.none, inductionHypothesis likeness.2⟩

/-- A member is read alike into places that are filled alike. -/
theorem matches_fill
    {shape : Shape ρ}
    {likeness : shape.Likeness}
    (respects : shape.Respects alike likeness)
    {name : String}
    {one other : Json}
    (here : alike name one other)
    {slots others : shape.Slots}
    (filled : shape.SlotsAlike likeness slots others) :
    Matches (shape.SlotsAlike likeness) (shape.fill name (.ofJson one) slots)
      (shape.fill name (.ofJson other) others) := by
  induction shape with
  | nil =>
      simp only [fill, Document.whole_ofJson]
      exact .ok True.intro
  | cons member rest inductionHypothesis =>
      obtain ⟨reads, _, later⟩ := respects
      obtain ⟨held, filled⟩ := filled
      unfold fill
      split
      · next same =>
          subst same
          generalize slots.1 = place, others.1 = otherPlace at held ⊢
          cases held with
          | some _ =>
              exact .error _
          | none =>
              have read := reads here
              unfold Reader.json at read
              generalize member.codec.read (.ofJson one) = result at read ⊢
              generalize member.codec.read (.ofJson other) = otherResult at read ⊢
              cases read with
              | ok same => exact .ok ⟨.some same, filled⟩
              | error error => exact .error _
      · exact (inductionHypothesis later filled).map fun rest => ⟨held, rest⟩

theorem matches_fillAll
    {shape : Shape ρ}
    {likeness : shape.Likeness}
    (respects : shape.Respects alike likeness)
    {members others : List (String × Json)}
    (same : ByName alike members others)
    {slots otherSlots : shape.Slots}
    (filled : shape.SlotsAlike likeness slots otherSlots) :
    Matches (shape.SlotsAlike likeness)
      (shape.fillAll (members.map fun member => (some member.1, .ofJson member.2)) slots)
      (shape.fillAll (others.map fun member => (some member.1, .ofJson member.2)) otherSlots) := by
  induction same generalizing slots otherSlots with
  | nil =>
      exact .ok filled
  | @cons member other rest others here later inductionHypothesis =>
      obtain ⟨name, value⟩ := member
      obtain ⟨_, otherValue⟩ := other
      obtain ⟨rfl, here⟩ := here
      have read := matches_fill respects here filled
      simp only [List.map_cons, fillAll]
      generalize shape.fill name (.ofJson value) slots = result at read ⊢
      generalize shape.fill name (.ofJson otherValue) otherSlots = otherResult at read ⊢
      cases read with
      | ok filled => exact inductionHypothesis filled
      | error error => exact .error error

/-- Records whose places were filled alike are alike, or lack the same member. -/
theorem matches_finish
    {shape : Shape ρ}
    {likeness : shape.Likeness}
    (respects : shape.Respects alike likeness)
    {slots others : shape.Slots}
    (filled : shape.SlotsAlike likeness slots others) :
    Matches (shape.Alike likeness) (shape.finish slots) (shape.finish others) := by
  induction shape with
  | nil =>
      exact .ok True.intro
  | cons member rest inductionHypothesis =>
      obtain ⟨_, absent, later⟩ := respects
      obtain ⟨held, filled⟩ := filled
      have finished := inductionHypothesis later filled
      unfold finish
      generalize slots.1 = place, others.1 = otherPlace at held ⊢
      cases held with
      | some same =>
          exact finished.map fun others => ⟨same, others⟩
      | none =>
          cases missing : member.absent with
          | none => exact .error _
          | some value => exact finished.map fun others => ⟨absent value missing, others⟩

/-- The items of a list are read alike, and equally many are left over. -/
theorem matches_readItems
    {shape : Shape ρ}
    {likeness : shape.Likeness}
    (respects : shape.Respects alike likeness)
    {columns : List String}
    (named : shape.names <+: columns)
    {items others : List Json}
    (same : InColumns alike columns items others)
    (expected : String)
    (index : Nat) :
    Matches (fun one other => shape.Alike likeness one.1 other.1 ∧ one.2.length = other.2.length)
      (shape.readItems expected true index (items.map .ofJson))
      (shape.readItems expected true index (others.map .ofJson)) := by
  induction shape generalizing columns items others index with
  | nil =>
      exact .ok ⟨True.intro, by simpa using same.length_eq⟩
  | cons member rest inductionHypothesis =>
      obtain ⟨reads, absent, later⟩ := respects
      cases same with
      | nil columns =>
          simp only [List.map_nil, readItems, if_true]
          cases missing : member.absent with
          | none =>
              exact .error _
          | some value =>
              obtain ⟨more, rfl⟩ := named
              have next := inductionHypothesis later (List.prefix_append rest.names more)
                (.nil _) (index + 1)
              exact next.map fun others => ⟨⟨absent value missing, others.1⟩, others.2⟩
      | cons here following =>
          obtain ⟨rfl, others⟩ := List.cons_prefix_cons.mp named
          have read := reads here
          have next := inductionHypothesis later others following (index + 1)
          unfold Reader.json at read
          simp only [List.map_cons, readItems]
          generalize member.codec.read (.ofJson _) = result at read ⊢
          generalize member.codec.read (.ofJson _) = otherResult at read ⊢
          cases read with
          | ok same => exact next.map fun others => ⟨⟨same, others.1⟩, others.2⟩
          | error error => exact .error _
      | beyond items =>
          simp [names] at named

/-- A record is read alike from objects that pass for each other. -/
theorem matches_read_object
    {shape : Shape ρ}
    {likeness : shape.Likeness}
    (respects : shape.Respects alike likeness)
    (title : String)
    {members others : List (String × Json)}
    (same : ByName alike members others) :
    Matches (shape.Alike likeness) ((shape.read title).json (.object members))
      ((shape.read title).json (.object others)) := by
  have filled := matches_fillAll respects same (slotsAlike_empty shape likeness)
  simp only [Reader.json, Document.ofJson_object, read, if_true]
  exact filled.bind fun filled => matches_finish respects filled

/-- A record is read alike from arrays that pass for each other. -/
theorem matches_read_array
    {shape : Shape ρ}
    {likeness : shape.Likeness}
    (respects : shape.Respects alike likeness)
    (title : String)
    {columns : List String}
    (named : shape.names <+: columns)
    {items others : List Json}
    (same : InColumns alike columns items others) :
    Matches (shape.Alike likeness) ((shape.read title).json (.array items))
      ((shape.read title).json (.array others)) := by
  have taken :=
    matches_readItems respects named same (shape.lengthExpectation title) 0
  simp only [Reader.json, Document.ofJson_array, read, List.length_map, same.length_eq]
  refine taken.bind ?_
  rintro ⟨record, left⟩ ⟨other, otherLeft⟩ ⟨alike, size⟩
  have empty : left.isEmpty = otherLeft.isEmpty := by
    rw [Bool.eq_iff_iff, List.isEmpty_iff_length_eq_zero, List.isEmpty_iff_length_eq_zero, size]
  simp only [empty, if_true]
  split
  · exact .error _
  · exact .ok alike

/-- A record is read alike from values that are the same but for what may be covered. -/
theorem matches_read
    {shape : Shape ρ}
    {likeness : shape.Likeness}
    (refl : ∀ name value, alike name value value)
    (respects : shape.Respects alike likeness)
    (title : String)
    {columns : List String}
    (named : shape.names <+: columns)
    {value other : Json}
    (same : SameBut alike columns value other) :
    Matches (shape.Alike likeness) ((shape.read title).json value)
      ((shape.read title).json other) := by
  cases same with
  | object members => exact matches_read_object respects title members
  | array items => exact matches_read_array respects title named items
  | same value =>
      cases value with
      | object members => exact matches_read_object respects title (ByName.refl refl members)
      | array items => exact matches_read_array respects title named (InColumns.refl refl _ items)
      | null | bool _ | number _ | text _ => exact .error _

end

end Shape

/-- A record type's codec reads alike what is the same but for what may be covered. -/
theorem Codec.matches_read_record
    {shape : Shape ρ}
    {covers : String → Json → Json → Prop}
    {alike : α → α → Prop}
    {pack : ρ → α}
    {unpack : α → ρ}
    {title : String}
    (likeness : shape.Likeness)
    (packed : ∀ one other, shape.Alike likeness one other → alike (pack one) (pack other))
    (refl : ∀ name value, covers name value value)
    (respects : shape.Respects covers likeness)
    {columns : List String}
    (named : shape.names <+: columns)
    {value other : Json}
    (same : SameBut covers columns value other) :
    Matches alike ((Codec.record title shape pack unpack).read.json value)
      ((Codec.record title shape pack unpack).read.json other) :=
  (Shape.matches_read refl respects title named same).map fun alike => packed _ _ alike

end GraphBroker.Json
