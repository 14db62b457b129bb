namespace GraphBroker

/-!
# Collections sorted by a text key

A keyed collection holds at most one entry for each key and lists its entries
in ascending order of their keys.  Texts are ordered by their characters' code
points, which is also the order of their UTF-8 bytes.
-/

/-- Entries in strictly ascending order of their keys. -/
def Ascending (entries : List (String × α)) : Prop :=
  entries.Pairwise fun first second => first.1 < second.1

/-- A collection with one value for each of its keys, in ascending order of the keys. -/
structure Keyed (α : Type) where
  entries : List (String × α)
  ascending : Ascending entries

namespace Keyed

/-- Put an entry at its place, in the stead of one with the same key. -/
def insertEntry (key : String) (value : α) : List (String × α) → List (String × α)
  | [] => [(key, value)]
  | (other, held) :: rest =>
      if key < other then (key, value) :: (other, held) :: rest
      else if key = other then (key, value) :: rest
      else (other, held) :: insertEntry key value rest

/-- Every key after an insertion is the inserted one or was there before. -/
theorem key_of_mem_insertEntry
    {key : String}
    {value : α}
    {entries : List (String × α)}
    {entry : String × α}
    (member : entry ∈ insertEntry key value entries) :
    entry.1 = key ∨ entry ∈ entries := by
  induction entries with
  | nil =>
      simp only [insertEntry, List.mem_singleton] at member
      exact Or.inl (by rw [member])
  | cons first rest inductionHypothesis =>
      obtain ⟨other, held⟩ := first
      simp only [insertEntry] at member
      split at member
      · rcases List.mem_cons.mp member with isNew | old
        · exact Or.inl (by rw [isNew])
        · exact Or.inr old
      · split at member
        · rcases List.mem_cons.mp member with isNew | old
          · exact Or.inl (by rw [isNew])
          · exact Or.inr (List.mem_cons_of_mem _ old)
        · rcases List.mem_cons.mp member with isFirst | inRest
          · exact Or.inr (by rw [isFirst]; exact List.mem_cons_self)
          · rcases inductionHypothesis inRest with isKey | old
            · exact Or.inl isKey
            · exact Or.inr (List.mem_cons_of_mem _ old)

/-- Insertion keeps the keys ascending. -/
theorem ascending_insertEntry
    {entries : List (String × α)}
    (key : String)
    (value : α)
    (ascending : Ascending entries) :
    Ascending (insertEntry key value entries) := by
  induction entries with
  | nil => exact List.pairwise_singleton _ _
  | cons first rest inductionHypothesis =>
      obtain ⟨other, held⟩ := first
      have parts := List.pairwise_cons.mp ascending
      simp only [insertEntry]
      split
      · next below =>
          refine List.pairwise_cons.mpr ⟨?_, ascending⟩
          intro entry member
          rcases List.mem_cons.mp member with isFirst | inRest
          · rw [isFirst]; exact below
          · exact String.lt_trans below (parts.1 entry inRest)
      · next notBelow =>
          split
          · next same =>
              subst same
              exact List.pairwise_cons.mpr ⟨fun entry member => parts.1 entry member, parts.2⟩
          · next different =>
              refine List.pairwise_cons.mpr ⟨?_, inductionHypothesis parts.2⟩
              intro entry member
              rcases key_of_mem_insertEntry member with isKey | old
              · rw [isKey]
                have atMost : other ≤ key := String.not_lt.mp notBelow
                exact Std.lt_of_le_of_ne atMost fun same => different same.symm
              · exact parts.1 entry old

/-- The collection without entries. -/
def empty : Keyed α :=
  ⟨[], List.Pairwise.nil⟩

/-- The value held under a key. -/
def find? (collection : Keyed α) (key : String) : Option α :=
  (collection.entries.find? fun entry => entry.1 == key).map Prod.snd

/-- The key has a value. -/
def contains (collection : Keyed α) (key : String) : Bool :=
  (collection.find? key).isSome

/-- Hold a value under a key, in the stead of any held there before. -/
def insert (collection : Keyed α) (key : String) (value : α) : Keyed α :=
  ⟨insertEntry key value collection.entries, ascending_insertEntry key value collection.ascending⟩

/-- Hold nothing under a key. -/
def erase (collection : Keyed α) (key : String) : Keyed α :=
  ⟨collection.entries.filter fun entry => entry.1 != key, collection.ascending.filter _⟩

/-- The keys, in ascending order. -/
def keys (collection : Keyed α) : List String :=
  collection.entries.map Prod.fst

/-- The values, in ascending order of their keys. -/
def values (collection : Keyed α) : List α :=
  collection.entries.map Prod.snd

/-- How many entries there are. -/
def size (collection : Keyed α) : Nat :=
  collection.entries.length

end Keyed

/-- Keep an entry in front of those kept so far unless the first of them has the same key. -/
def keepUnlessRepeated (kept : List (String × α)) (entry : String × α) : List (String × α) :=
  match kept with
  | [] => [entry]
  | next :: _ => if next.1 == entry.1 then kept else entry :: kept

/--
Entries put in ascending order of their keys.  Of several entries with one key
the last is kept.
-/
def sortByKey (entries : List (String × α)) : List (String × α) :=
  let sorted := entries.mergeSort fun first second => decide (first.1 ≤ second.1)
  sorted.reverse.foldl keepUnlessRepeated []

end GraphBroker
