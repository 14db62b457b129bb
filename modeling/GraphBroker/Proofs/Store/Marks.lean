import GraphBroker.Proofs.Store.Subjects
import GraphBroker.Proofs.Text.Base64
import Mathlib.Data.List.Forall2

namespace GraphBroker.Store

open Text

/-!
# The structure of texts about triples

Some characters give documents, queries and updates their structure: brackets, quotes,
backslashes, braces and white space.  This module tells them from what is written between
them.  Neither an identifier that needs no escape nor a stored text has any of them, and
texts that are made of alike parts have them in the same order.
-/

/-- A character with a meaning in documents, queries and updates, or white space. -/
def isMark (c : Char) : Bool :=
  ['<', '>', '"', '\'', '\\', '\x7b', '\x7d'].contains c || isBlank c

/-- The characters of structure in a text, in their order. -/
def marks (text : String) : List Char :=
  text.toList.filter isMark

theorem marks_append
    (first second : String) :
    marks (first ++ second) = marks first ++ marks second := by
  simp [marks]

theorem marks_intercalate
    (between : String)
    (texts : List String) :
    marks (between.intercalate texts) = (marks between).intercalate (texts.map marks) := by
  induction texts with
  | nil =>
      rfl
  | cons text others inductionHypothesis =>
      cases others with
      | nil =>
          simp [List.intercalate]
      | cons other rest =>
          simp only [String.intercalate_cons_cons, marks_append, inductionHypothesis]
          simp [List.intercalate]

/-- A text without marks of its own has none. -/
theorem marks_eq_nil
    {text : String}
    (plain : ∀ c ∈ text.toList, isMark c = false) :
    marks text = [] := by
  simpa [marks] using plain

/-- No identifier that needs no escape has a character of structure. -/
theorem marks_key
    {key : String}
    (safe : Graph.isSafeKey key = true) :
    marks key = [] := by
  refine marks_eq_nil fun c member => ?_
  have plain := of_isKeyChar (fun c => !isMark c) (by decide) (isKeyChar_of_safe safe member)
  simpa using plain

/-- No stored text has a character of structure. -/
theorem marks_encode
    (bytes : List UInt8) :
    marks (Base64.encode bytes) = [] := by
  have digits : ∀ digit < 64, isMark (Base64.digitChar digit) = false := by
    decide
  refine marks_eq_nil fun c member => ?_
  rw [Base64.encode, String.toList_ofList] at member
  rcases Base64.digit_of_mem_encodeOnto member with rfl | ⟨digit, bound, rfl⟩
  · decide
  · exact digits digit bound

/-! ## Texts of the same structure -/

/-- Nodes whose written forms have the same structure. -/
structure Node.Alike (first second : Node) : Prop where
  marks_render : marks first.render = marks second.render

/-- Blocks whose nodes have the same structure, one by one. -/
structure Block.Alike (first second : Block) : Prop where
  subject : first.subject.Alike second.subject
  pairs :
    List.Forall₂ (fun pair other => pair.1.Alike other.1 ∧ pair.2.Alike other.2)
      first.pairs second.pairs

theorem Node.Alike.refl
    (node : Node) :
    node.Alike node :=
  ⟨rfl⟩

theorem Node.alike_resource
    {first second : String}
    (same : marks first = marks second) :
    (Node.resource first).Alike (.resource second) := by
  constructor
  unfold Node.render
  simp only [marks_append, same]

theorem Node.alike_text
    {first second : String}
    (same : marks first = marks second) :
    (Node.text first).Alike (.text second) := by
  constructor
  unfold Node.render
  simp only [marks_append, same]

namespace Block.Alike

variable {first second : Block}

/-- Blocks that are alike are written with the same marks. -/
theorem marks_render
    (alike : first.Alike second)
    (between : String) :
    marks (first.render between) = marks (second.render between) := by
  have pairs :
      (first.pairs.map fun pair => pair.1.render ++ " " ++ pair.2.render).map marks =
        (second.pairs.map fun pair => pair.1.render ++ " " ++ pair.2.render).map marks := by
    rw [List.map_map, List.map_map, ← List.forall₂_eq_eq_eq, List.forall₂_map_left_iff,
      List.forall₂_map_right_iff]
    refine alike.pairs.imp fun pair other same => ?_
    simp only [Function.comp_apply, marks_append, same.1.marks_render, same.2.marks_render]
  unfold Block.render
  rw [marks_append, marks_append, marks_append, marks_append, marks_intercalate, marks_intercalate,
    pairs, alike.subject.marks_render]

/-- Documents of blocks that are alike have the same marks. -/
theorem marks_turtle
    (alike : first.Alike second) :
    marks first.turtle = marks second.turtle := by
  unfold Block.turtle
  simp only [marks_append, alike.marks_render]

end Block.Alike

/-- Queries with blocks that are alike have the same marks. -/
theorem Query.marks_render
    {first second : Query}
    (wanted : first.wanted = second.wanted)
    (alike : first.block.Alike second.block) :
    marks first.render = marks second.render := by
  unfold Query.render
  simp only [marks_append, wanted, alike.marks_render]

/-- Updates with blocks that are alike have the same marks. -/
theorem Update.marks_render
    {first second : Update}
    (words : first.blocks.any Block.hasWord = second.blocks.any Block.hasWord)
    (alike : List.Forall₂ Block.Alike first.blocks second.blocks) :
    marks first.render = marks second.render := by
  have blocks :
      (first.blocks.map fun block => "DELETE WHERE \x7b " ++ block.render " ; " ++ " . \x7d").map
          marks =
        (second.blocks.map fun block => "DELETE WHERE \x7b " ++ block.render " ; " ++ " . \x7d").map
          marks := by
    rw [List.map_map, List.map_map, ← List.forall₂_eq_eq_eq, List.forall₂_map_left_iff,
      List.forall₂_map_right_iff]
    refine alike.imp fun block other same => ?_
    simp only [Function.comp_apply, marks_append, same.marks_render]
  unfold Update.render
  rw [marks_append, marks_append, marks_intercalate, marks_intercalate, blocks, words]

end GraphBroker.Store
