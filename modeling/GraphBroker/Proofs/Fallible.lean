import Mathlib.Data.List.Forall2

namespace GraphBroker

/-!
# Results that may be errors

What is known of the parts of a computation that can fail, once the whole of it
has succeeded or failed.
-/

@[simp]
theorem mapError_ok
    (rename : ε → ε')
    (value : α) :
    (Except.ok value).mapError rename = .ok value :=
  rfl

@[simp]
theorem mapError_error
    (rename : ε → ε')
    (error : ε) :
    (Except.error error : Except ε α).mapError rename = .error (rename error) :=
  rfl

theorem mapError_eq_ok_iff
    {rename : ε → ε'}
    {result : Except ε α}
    {value : α} :
    result.mapError rename = .ok value ↔ result = .ok value := by
  cases result <;> simp

theorem mapError_eq_error_iff
    {rename : ε → ε'}
    {result : Except ε α}
    {renamed : ε'} :
    result.mapError rename = .error renamed ↔
      ∃ error, result = .error error ∧ renamed = rename error := by
  cases result <;> simp [eq_comm]

theorem map_eq_ok_iff
    {result : Except ε α}
    {make : α → β}
    {value : β} :
    result.map make = .ok value ↔ ∃ found, result = .ok found ∧ make found = value := by
  cases result <;> simp [Except.map]

/-- Two steps succeed if the first does, and then the second with what came of the first. -/
theorem bind_eq_ok_iff
    {first : Except ε α}
    {next : α → Except ε β}
    {value : β} :
    first >>= next = .ok value ↔ ∃ middle, first = .ok middle ∧ next middle = .ok value := by
  cases first <;> simp [bind, Except.bind]

/-- Reading every entry of a list succeeds if reading each of them does. -/
theorem mapM_eq_ok_map
    {entries : List α}
    {read : α → Except ε β}
    {value : α → β}
    (readable : ∀ entry ∈ entries, read entry = .ok (value entry)) :
    entries.mapM read = .ok (entries.map value) := by
  induction entries with
  | nil =>
      rfl
  | cons entry rest inductionHypothesis =>
      have here := readable entry (by simp)
      have others := inductionHypothesis fun other member => readable other (by simp [member])
      simp [List.mapM_cons, here, others, bind, Except.bind, pure, Except.pure]

theorem mapM_cons_eq_ok_iff
    {first : α}
    {rest : List α}
    {read : α → Except ε β}
    {values : List β} :
    (first :: rest).mapM read = .ok values ↔
      ∃ value later, read first = .ok value ∧ rest.mapM read = .ok later ∧
        values = value :: later := by
  rw [List.mapM_cons]
  cases read first with
  | error error => simp [bind, Except.bind]
  | ok value =>
      cases rest.mapM read with
      | error error => simp [bind, Except.bind]
      | ok later => simp [bind, Except.bind, pure, Except.pure, eq_comm]

/-- Reading every entry of a list gives what is read of each of them, in their order. -/
theorem mapM_eq_ok_iff
    {entries : List α}
    {read : α → Except ε β}
    {values : List β} :
    entries.mapM read = .ok values ↔
      List.Forall₂ (fun entry value => read entry = .ok value) entries values := by
  induction entries generalizing values with
  | nil =>
      simp [List.mapM_nil, pure, Except.pure, eq_comm]
  | cons first rest inductionHypothesis =>
      simp only [mapM_cons_eq_ok_iff, inductionHypothesis, List.forall₂_cons_left_iff]

/-- Reading every entry of a list fails with the error of one of them. -/
theorem error_of_mapM
    {entries : List α}
    {read : α → Except ε β}
    {error : ε}
    (fails : entries.mapM read = .error error) :
    ∃ entry ∈ entries, read entry = .error error := by
  induction entries with
  | nil =>
      cases fails
  | cons first rest inductionHypothesis =>
      rw [List.mapM_cons] at fails
      cases here : read first with
      | error other =>
          rw [here] at fails
          cases fails
          exact ⟨first, List.mem_cons_self, here⟩
      | ok value =>
          rw [here] at fails
          cases later : rest.mapM read with
          | ok values =>
              rw [later] at fails
              cases fails
          | error other =>
              rw [later] at fails
              cases fails
              obtain ⟨entry, inRest, failed⟩ := inductionHypothesis later
              exact ⟨entry, List.mem_cons_of_mem _ inRest, failed⟩

/-- If every entry of a list can be read, so can each one. -/
theorem ok_of_mapM
    {entries : List α}
    {read : α → Except ε β}
    {values : List β}
    (all : entries.mapM read = .ok values)
    {entry : α}
    (member : entry ∈ entries) :
    ∃ value, read entry = .ok value := by
  have readable : List.Forall₂
      (fun entry value => (∃ value, read entry = .ok value) ∧ read entry = .ok value)
      entries values :=
    (mapM_eq_ok_iff.mp all).imp fun _ value here => ⟨⟨value, here⟩, here⟩
  exact ((List.forall₂_and_left entries values).mp readable).1 entry member

/-- Whatever is read of a list was read of one of its entries. -/
theorem mem_of_mapM
    {entries : List α}
    {read : α → Except ε β}
    {values : List β}
    (all : entries.mapM read = .ok values)
    {value : β}
    (member : value ∈ values) :
    ∃ entry ∈ entries, read entry = .ok value := by
  have among : List.Forall₂ (fun entry value => entry ∈ entries ∧ read entry = .ok value)
      entries values :=
    (List.forall₂_and_left entries values).mpr ⟨fun _ among => among, mapM_eq_ok_iff.mp all⟩
  have sourced : List.Forall₂
      (fun value entry => (∃ entry ∈ entries, read entry = .ok value) ∧ read entry = .ok value)
      values entries :=
    among.flip.imp fun value entry here => ⟨⟨entry, here⟩, here.2⟩
  exact ((List.forall₂_and_left values entries).mp sourced).1 value member

/-! ## Two computations side by side -/

/-- Two results are values that pass for each other, or the same error. -/
inductive Matches (alike : α → β → Prop) : Except ε α → Except ε β → Prop where
  | ok {one : α} {other : β}
      (same : alike one other) :
      Matches alike (.ok one) (.ok other)
  | error (error : ε) :
      Matches alike (.error error) (.error error)

namespace Matches

variable {alike : α → β → Prop} {one : Except ε α} {other : Except ε β}

theorem refl
    {alike : α → α → Prop}
    (refl : ∀ value, alike value value)
    (result : Except ε α) :
    Matches alike result result := by
  cases result with
  | ok value => exact .ok (refl value)
  | error error => exact .error error

theorem eq
    {one other : Except ε α}
    (same : Matches Eq one other) :
    one = other := by
  cases same with
  | ok same => rw [same]
  | error error => rfl

theorem map
    {further : γ → δ → Prop}
    {f : α → γ}
    {g : β → δ}
    (same : Matches alike one other)
    (onward : ∀ {value another}, alike value another → further (f value) (g another)) :
    Matches further (one.map f) (other.map g) := by
  cases same with
  | ok same => exact .ok (onward same)
  | error error => exact .error error

theorem mapError
    (same : Matches alike one other)
    (rename : ε → ε') :
    Matches alike (one.mapError rename) (other.mapError rename) := by
  cases same with
  | ok same => exact .ok same
  | error error => exact .error (rename error)

/-- Computations that match go on to match. -/
theorem bind
    {further : γ → δ → Prop}
    {f : α → Except ε γ}
    {g : β → Except ε δ}
    (same : Matches alike one other)
    (onward : ∀ {value another}, alike value another → Matches further (f value) (g another)) :
    Matches further (one >>= f) (other >>= g) := by
  cases same with
  | ok same => exact onward same
  | error error => exact .error error

end Matches

end GraphBroker
