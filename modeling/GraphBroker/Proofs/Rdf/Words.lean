import GraphBroker.Proofs.Text.Split

namespace GraphBroker.Rdf

open Text

/-!
# Words of a text

The texts for a graph are cut into words at their white space.  Two texts beside one
another have the words of both, if white space stands between them.
-/

/-- White space between words. -/
def isSpace (c : Char) : Bool :=
  c == ' ' || c == '\t' || c == '\r' || c == '\n'

/-- The words among some characters. -/
def wordsOf (chars : List Char) : List String :=
  ((splitChars isSpace chars).filter fun piece => !piece.isEmpty).map String.ofList

/-- The words of a text. -/
def words (text : String) : List String :=
  wordsOf text.toList

/-- A text that is one word. -/
structure IsWord (text : String) : Prop where
  nonempty : text ≠ ""
  solid : ∀ c ∈ text.toList, isSpace c = false

theorem wordsOf_append_cons
    {c : Char}
    (space : isSpace c = true)
    (first rest : List Char) :
    wordsOf (first ++ c :: rest) = wordsOf first ++ wordsOf rest := by
  simp only [wordsOf, splitChars_append_cons space, List.filter_append, List.map_append]

/-- White space at the beginning does not matter. -/
theorem wordsOf_cons
    {c : Char}
    (space : isSpace c = true)
    (rest : List Char) :
    wordsOf (c :: rest) = wordsOf rest :=
  wordsOf_append_cons space [] rest

/-- White space at the end does not matter. -/
theorem wordsOf_concat
    {c : Char}
    (space : isSpace c = true)
    (first : List Char) :
    wordsOf (first ++ [c]) = wordsOf first := by
  rw [wordsOf_append_cons space]
  exact List.append_nil _

/-- Two texts beside one another, with white space at the beginning of the second. -/
theorem words_append_of_head
    {first second : String}
    (apart : second.toList.head?.any isSpace = true) :
    words (first ++ second) = words first ++ words second := by
  obtain ⟨c, rest, same, space⟩ : ∃ c rest, second.toList = c :: rest ∧ isSpace c = true := by
    cases chars : second.toList with
    | nil => simp [chars] at apart
    | cons c rest => exact ⟨c, rest, rfl, by simpa [chars] using apart⟩
  rw [words, words, words, String.toList_append, same, wordsOf_append_cons space,
    wordsOf_cons space]

/-- Two texts beside one another, with white space at the end of the first. -/
theorem words_append_of_getLast
    {first second : String}
    (apart : first.toList.getLast?.any isSpace = true) :
    words (first ++ second) = words first ++ words second := by
  obtain ⟨start, c, same, space⟩ : ∃ start c, first.toList = start ++ [c] ∧ isSpace c = true := by
    cases found : first.toList.getLast? with
    | none => simp [found] at apart
    | some c =>
        obtain ⟨start, same⟩ := List.getLast?_eq_some_iff.mp found
        exact ⟨start, c, same, by simpa [found] using apart⟩
  rw [words, words, words, String.toList_append, same, List.append_assoc, List.singleton_append,
    wordsOf_append_cons space, wordsOf_concat space]

/-- Texts with a text between each two of them that begins and ends with white space. -/
theorem words_intercalate
    {between : String}
    (begins : between.toList.head?.any isSpace = true)
    (ends : between.toList.getLast?.any isSpace = true)
    (texts : List String) :
    words (between.intercalate texts) = (words between).intercalate (texts.map words) := by
  induction texts with
  | nil =>
      rfl
  | cons first rest inductionHypothesis =>
      cases rest with
      | nil =>
          simp
      | cons second others =>
          have apart (later : String) : (between ++ later).toList.head?.any isSpace = true := by
            cases chars : between.toList with
            | nil => simp [chars] at begins
            | cons c more => simpa [chars] using begins
          rw [String.intercalate_cons_cons, String.append_assoc, words_append_of_head (apart _),
            words_append_of_getLast ends, inductionHypothesis]
          simp

theorem IsWord.words_eq
    {text : String}
    (isWord : IsWord text) :
    words text = [text] := by
  have shows : text.toList.isEmpty = false := by
    simpa using isWord.nonempty
  rw [words, wordsOf, splitChars_of_none isWord.solid]
  simp [shows]

end GraphBroker.Rdf
