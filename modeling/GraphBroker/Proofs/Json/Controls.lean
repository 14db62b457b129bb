import GraphBroker.Proofs.Json.Tokens
import GraphBroker.Proofs.Text.Utf8

namespace GraphBroker.Json

/-!
# Written documents without control characters

Texts may hold any characters, but a control character is written as an escape, and the
written form of a document has no blanks.  So a written document is always a single line.
-/

/-- Characters without a control character before the blank. -/
def Visible (chars : List Char) : Prop :=
  ∀ c ∈ chars, 0x20 ≤ c.toNat

instance (chars : List Char) : Decidable (Visible chars) :=
  List.decidableBAll (fun c : Char => 0x20 ≤ c.toNat) chars

namespace Visible

variable {chars written : List Char}

theorem cons
    {c : Char}
    (here : 0x20 ≤ c.toNat)
    (others : Visible chars) :
    Visible (c :: chars) := by
  simpa [Visible] using ⟨here, others⟩

theorem reverseAux
    (here : Visible chars)
    (others : Visible written) :
    Visible (chars.reverseAux written) := by
  intro c member
  rw [List.reverseAux_eq, List.mem_append, List.mem_reverse] at member
  exact member.elim (here c) (others c)

/-- However a character is written, no control character is. -/
theorem escapeChar
    (c : Char) :
    Visible (escapeChar c) := by
  have controls : ∀ code < 0x20, Visible (Json.escapeChar (Char.ofNat code)) := by
    decide
  by_cases control : c.toNat < 0x20
  · rw [← Char.ofNat_toNat c]
    exact controls c.toNat control
  · have single : Visible [c] := by
      simpa [Visible] using control
    unfold Json.escapeChar
    rw [if_neg control]
    split
    · decide
    · split
      · decide
      · exact single

theorem textChars
    (text : String) :
    Visible (textChars text) := by
  intro c member
  simp only [Json.textChars, List.mem_cons, List.mem_append, List.mem_flatMap, List.not_mem_nil,
    or_false] at member
  rcases member with rfl | ⟨original, -, inside⟩ | rfl
  · decide
  · exact escapeChar original c inside
  · decide

theorem naturalChars
    (value : Nat) :
    Visible (Number.naturalChars value) := by
  intro c member
  have digit := Nat.isDigit_of_mem_toDigits (by decide) (by decide) member
  simp only [Char.isDigit, Bool.and_eq_true, decide_eq_true_eq] at digit
  exact Nat.le_trans (by decide) (UInt32.le_iff_toNat_le.mp digit.1)

theorem number
    {value : Number}
    (integral : value.Integral) :
    Visible value.chars := by
  cases value with
  | natural value =>
      exact naturalChars value.toNat
  | negative below =>
      exact cons (by decide) (naturalChars (below.val + 1))
  | real value =>
      exact integral.elim

/-- The bytes of characters are no control characters either. -/
theorem bytes
    {text : String}
    (visible : Visible text.toList) :
    ∀ byte ∈ Text.Utf8.encode text, 0x20 ≤ byte.toNat := by
  intro byte member
  by_cases small : byte.toNat < 128
  · have inText := visible _ (Text.Utf8.mem_of_mem_encode member small)
    have valid : byte.toNat.isValidChar := Or.inl (by omega)
    exact Nat.le_trans inText (Nat.le_of_eq (Text.Utf8.toNat_ofNat_of_isValidChar valid))
  · omega

end Visible

namespace Document

theorem visible_separated
    {written : List Char}
    (visible : Visible written)
    (first : Bool) :
    Visible (if first then written else ',' :: written) := by
  cases first with
  | true =>
      exact visible
  | false =>
      exact visible.cons (by decide)

theorem visible_items
    {items : List Document}
    (each : ∀ item ∈ items, ∀ {written}, Visible written → Visible (writeOnto written item))
    {written : List Char}
    (visible : Visible written)
    (first : Bool) :
    Visible (writeItemsOnto written first items) := by
  induction items generalizing written first with
  | nil =>
      exact visible
  | cons item rest inductionHypothesis =>
      have here := each item List.mem_cons_self (visible_separated visible first)
      exact inductionHypothesis (fun other member => each other (.tail _ member)) here false

theorem visible_members
    {members : List (Option String × Document)}
    (each : ∀ member ∈ members, ∀ {written}, Visible written → Visible (writeOnto written member.2))
    {written : List Char}
    (visible : Visible written)
    (first : Bool) :
    Visible (writeMembersOnto written first members) := by
  induction members generalizing written first with
  | nil =>
      exact visible
  | cons member rest inductionHypothesis =>
      obtain ⟨key, value⟩ := member
      have named := (Visible.textChars (key.getD "")).reverseAux (visible_separated visible first)
      have keyed : Visible (':' :: _) := named.cons (by decide)
      have here := each (key, value) List.mem_cons_self keyed
      exact inductionHypothesis (fun other member => each other (.tail _ member)) here false

/-- A legible document is written without control characters. -/
theorem Legible.visible_writeOnto
    {document : Document}
    (legible : document.Legible)
    {written : List Char}
    (visible : Visible written) :
    Visible (writeOnto written document) := by
  induction legible generalizing written with
  | null =>
      exact (show Visible ['n', 'u', 'l', 'l'] by decide).reverseAux visible
  | flag value =>
      cases value with
      | true =>
          exact (show Visible ['t', 'r', 'u', 'e'] by decide).reverseAux visible
      | false =>
          exact (show Visible ['f', 'a', 'l', 's', 'e'] by decide).reverseAux visible
  | number integral =>
      exact (Visible.number integral).reverseAux visible
  | text value =>
      exact (Visible.textChars value).reverseAux visible
  | list legible each =>
      exact (visible_items each (visible.cons (by decide)) true).cons (by decide)
  | table keyed legible each =>
      exact (visible_members each (visible.cons (by decide)) true).cons (by decide)

/-- A document is written without a control character. -/
theorem Legible.visible_print
    {document : Document}
    (legible : document.Legible) :
    Visible document.print.toList := by
  intro c member
  rw [print, String.toList_ofList, chars, List.mem_reverse] at member
  exact legible.visible_writeOnto (by decide) c member

end Document

end GraphBroker.Json
