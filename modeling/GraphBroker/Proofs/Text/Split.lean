import GraphBroker.Text.Split

namespace GraphBroker.Text

/-!
# Pieces of a text

Splitting is the splitting of lists in general.  The pieces of two sequences with a
separator between them are the pieces of one and of the other.
-/

theorem splitOnto_eq
    (separates : Char → Bool)
    (pieces : List (List Char))
    (piece chars : List Char) :
    splitOnto separates pieces piece chars =
      pieces.reverse ++ (chars.splitOnP separates).modifyHead (piece.reverse ++ ·) := by
  induction chars generalizing pieces piece with
  | nil =>
      simp [splitOnto]
  | cons c rest inductionHypothesis =>
      rw [splitOnto, List.splitOnP_cons_eq_if_modifyHead]
      split
      · rw [inductionHypothesis]
        cases rest.splitOnP separates <;> simp
      · rw [inductionHypothesis]
        cases rest.splitOnP separates <;> simp

theorem splitChars_eq_splitOnP
    (separates : Char → Bool)
    (chars : List Char) :
    splitChars separates chars = chars.splitOnP separates := by
  rw [splitChars, splitOnto_eq]
  cases chars.splitOnP separates <;> rfl

theorem splitChars_append_cons
    {separates : Char → Bool}
    {c : Char}
    (separator : separates c = true)
    (first rest : List Char) :
    splitChars separates (first ++ c :: rest) =
      splitChars separates first ++ splitChars separates rest := by
  simp only [splitChars_eq_splitOnP, List.splitOnP_append_cons first rest separator]

/-- A sequence without separators is one piece. -/
theorem splitChars_of_none
    {separates : Char → Bool}
    {chars : List Char}
    (none : ∀ c ∈ chars, separates c = false) :
    splitChars separates chars = [chars] := by
  rw [splitChars_eq_splitOnP, List.splitOnP_eq_singleton none]

/-- No piece has a separator in it. -/
theorem none_of_mem_splitChars
    {separates : Char → Bool}
    {chars piece : List Char}
    (member : piece ∈ splitChars separates chars) :
    ∀ c ∈ piece, separates c = false := by
  rw [splitChars_eq_splitOnP] at member
  induction chars generalizing piece with
  | nil =>
      obtain rfl : piece = [] := by simpa [List.splitOnP_nil] using member
      simp
  | cons first rest inductionHypothesis =>
      rw [List.splitOnP_cons_eq_if_modifyHead] at member
      split at member
      · rcases List.mem_cons.mp member with rfl | later
        · simp
        · exact inductionHypothesis later
      · next kept =>
        -- The first character goes to the first of the later pieces.
        cases later : rest.splitOnP separates with
        | nil =>
            exact absurd later (List.splitOnP_ne_nil _ _)
        | cons begun others =>
            rw [later] at member inductionHypothesis
            rcases List.mem_cons.mp member with rfl | among
            · simpa [kept] using inductionHypothesis List.mem_cons_self
            · exact inductionHypothesis (List.mem_cons_of_mem _ among)

/-- A text is cut at its slashes: its pieces have none, and with slashes between them they are the text. -/
theorem splitAtSlashes_eq_iff
    {text : String}
    {pieces : List String} :
    splitAtSlashes text = pieces ↔
      pieces ≠ [] ∧ (∀ piece ∈ pieces, '/' ∉ piece.toList) ∧
        text.toList = ['/'].intercalate (pieces.map String.toList) := by
  have cut : (splitAtSlashes text).map String.toList = text.toList.splitOn '/' := by
    simp [splitAtSlashes, splitChars_eq_splitOnP, List.splitOn_eq_splitOnP, Function.comp_def]
  constructor
  · rintro rfl
    refine ⟨?_, ?_, ?_⟩
    · intro empty
      rw [empty] at cut
      exact List.splitOn_ne_nil _ _ cut.symm
    · intro piece member slash
      obtain ⟨chars, among, rfl⟩ := List.mem_map.mp member
      rw [String.toList_ofList] at slash
      exact absurd (none_of_mem_splitChars among _ slash) (by simp)
    · rw [cut, List.intercalate_splitOn]
  · rintro ⟨nonempty, slashless, whole⟩
    rw [whole, List.splitOn_intercalate _ (by simpa using slashless) (by simpa using nonempty)]
      at cut
    exact (List.map_inj_right fun _ _ => String.toList_inj.mp).mp cut

end GraphBroker.Text
