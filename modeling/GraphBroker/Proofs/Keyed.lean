import GraphBroker.Keyed
import Mathlib.Data.List.Nodup

namespace GraphBroker.Keyed

/-!
# Looking up in keyed collections

A collection is known by what it holds under each key.  These lemmas say so of
every operation, so that no later proof has to look at the list of entries.
-/

private theorem find?_insertEntry
    (key other : String)
    (value : α)
    (entries : List (String × α)) :
    ((insertEntry key value entries).find? fun entry => entry.1 == other).map Prod.snd =
      if other = key then some value
      else (entries.find? fun entry => entry.1 == other).map Prod.snd := by
  induction entries with
  | nil =>
      by_cases same : other = key
      · simp [insertEntry, same]
      · simp [insertEntry, same, Ne.symm same]
  | cons first rest inductionHypothesis =>
      obtain ⟨present, held⟩ := first
      simp only [insertEntry]
      split
      · by_cases same : other = key
        · simp [same]
        · simp [same, Ne.symm same]
      · split
        · next isPresent =>
            subst isPresent
            by_cases same : other = key
            · simp [same]
            · simp [same, Ne.symm same]
        · next notPresent =>
            by_cases here : present = other
            · have different : other ≠ key := fun same => notPresent (same.symm.trans here.symm)
              simp [here, different]
            · simp only [List.find?_cons, beq_eq_false_iff_ne.mpr here]
              exact inductionHypothesis

@[simp]
theorem find?_empty
    (key : String) :
    (empty : Keyed α).find? key = none :=
  rfl

/-- After an insertion the inserted key has its value, and every other key what it had. -/
theorem find?_insert
    (collection : Keyed α)
    (key : String)
    (value : α)
    (other : String) :
    (collection.insert key value).find? other =
      if other = key then some value else collection.find? other :=
  find?_insertEntry key other value collection.entries

/-- After an erasure the erased key has nothing, and every other key what it had. -/
theorem find?_erase
    (collection : Keyed α)
    (key other : String) :
    (collection.erase key).find? other =
      if other = key then none else collection.find? other := by
  by_cases same : other = key
  · subst same
    simp only [erase, find?, ↓reduceIte, Option.map_eq_none_iff, List.find?_eq_none]
    intro entry member
    have kept := (List.mem_filter.mp member).2
    simpa using kept
  · simp only [erase, find?, List.find?_filter, same, ↓reduceIte]
    congr 2
    funext entry
    by_cases found : entry.1 = other
    · simp [found, same]
    · simp [found]

private theorem find?_eq_some_of_mem
    {entries : List (String × α)}
    {entry : String × α}
    (ascending : Ascending entries)
    (member : entry ∈ entries) :
    (entries.find? fun candidate => candidate.1 == entry.1) = some entry := by
  induction entries with
  | nil =>
      simp at member
  | cons first rest inductionHypothesis =>
      have parts := List.pairwise_cons.mp ascending
      rcases List.mem_cons.mp member with isFirst | inRest
      · subst isFirst
        simp
      · have different : first.1 ≠ entry.1 := by
          intro same
          have below := parts.1 entry inRest
          rw [same] at below
          exact String.lt_irrefl _ below
        simp only [List.find?_cons, beq_eq_false_iff_ne.mpr different]
        exact inductionHypothesis parts.2 inRest

/-- The entries are what is held under their keys. -/
theorem mem_entries_iff
    {collection : Keyed α}
    {key : String}
    {value : α} :
    (key, value) ∈ collection.entries ↔ collection.find? key = some value := by
  constructor
  · intro member
    simp [find?, find?_eq_some_of_mem collection.ascending member]
  · intro found
    obtain ⟨⟨other, held⟩, entryFound, rfl⟩ := Option.map_eq_some_iff.mp found
    have same : other = key := by simpa using List.find?_some entryFound
    exact same ▸ List.mem_of_find?_eq_some entryFound

theorem nodup_keys
    (collection : Keyed α) :
    (collection.entries.map Prod.fst).Nodup := by
  apply List.Pairwise.map _ _ collection.ascending
  intro first second below same
  rw [same] at below
  exact String.lt_irrefl _ below

/-- Collections that hold the same under every key are the same. -/
theorem eq_of_find?
    {first second : Keyed α}
    (same : ∀ key, first.find? key = second.find? key) :
    first = second := by
  have members (entry : String × α) : entry ∈ first.entries ↔ entry ∈ second.entries := by
    obtain ⟨key, value⟩ := entry
    rw [mem_entries_iff, mem_entries_iff, same]
  have permuted : first.entries.Perm second.entries :=
    (List.perm_ext_iff_of_nodup (nodup_keys first).of_map (nodup_keys second).of_map).mpr members
  have entries : first.entries = second.entries := by
    refine permuted.eq_of_pairwise ?_ first.ascending second.ascending
    intro one other _ _ below above
    exact absurd (String.lt_trans below above) (String.lt_irrefl one.1)
  cases first
  cases second
  cases entries
  rfl

/-- The values are what is held under some key. -/
theorem mem_values_iff
    {collection : Keyed α}
    {value : α} :
    value ∈ collection.values ↔ ∃ key, collection.find? key = some value := by
  constructor
  · intro member
    obtain ⟨entry, entryMember, rfl⟩ := List.mem_map.mp member
    exact ⟨entry.1, by simp [find?, find?_eq_some_of_mem collection.ascending entryMember]⟩
  · rintro ⟨key, found⟩
    obtain ⟨entry, entryFound, rfl⟩ := Option.map_eq_some_iff.mp found
    exact List.mem_map_of_mem (List.mem_of_find?_eq_some entryFound)

/-- Entries that ascend already stay as they are. -/
theorem sortByKey_of_ascending
    {entries : List (String × α)}
    (ascending : Ascending entries) :
    sortByKey entries = entries := by
  have sorted : entries.mergeSort (fun first second => decide (first.1 ≤ second.1)) = entries := by
    apply List.mergeSort_of_pairwise
    exact ascending.imp fun below => decide_eq_true (String.not_lt.mp (String.lt_asymm below))
  rw [sortByKey, sorted, List.foldl_reverse]
  clear sorted
  induction ascending with
  | nil =>
      rfl
  | @cons entry rest below ascending inductionHypothesis =>
      rw [List.foldr_cons, inductionHypothesis]
      cases rest with
      | nil =>
          rfl
      | cons next others =>
          have different : next.1 ≠ entry.1 := by
            intro same
            have self := below next (by simp)
            rw [same] at self
            exact String.lt_irrefl _ self
          simp [keepUnlessRepeated, different]

theorem mem_of_mem_keepUnlessRepeated
    {kept : List (String × α)}
    {entry other : String × α}
    (member : other ∈ keepUnlessRepeated kept entry) :
    other = entry ∨ other ∈ kept := by
  cases kept with
  | nil =>
      exact Or.inl (List.mem_singleton.mp member)
  | cons next rest =>
      simp only [keepUnlessRepeated] at member
      split at member
      · exact Or.inr member
      · exact List.mem_cons.mp member

theorem keys_keepUnlessRepeated
    (kept : List (String × α))
    (entry : String × α)
    (key : String) :
    key ∈ (keepUnlessRepeated kept entry).map Prod.fst ↔
      key = entry.1 ∨ key ∈ kept.map Prod.fst := by
  cases kept with
  | nil =>
      simp [keepUnlessRepeated]
  | cons next rest =>
      simp only [keepUnlessRepeated]
      split
      · next same =>
          have same : next.1 = entry.1 := by simpa using same
          simp [same]
      · simp

/-- No entry comes in by sorting. -/
theorem mem_of_mem_sortByKey
    {entries : List (String × α)}
    {entry : String × α}
    (member : entry ∈ sortByKey entries) :
    entry ∈ entries := by
  rw [sortByKey, List.foldl_reverse] at member
  have same := List.mergeSort_perm entries fun first second => decide (first.1 ≤ second.1)
  rw [← same.mem_iff]
  clear same
  generalize entries.mergeSort _ = sorted at member ⊢
  induction sorted with
  | nil =>
      cases member
  | cons first rest inductionHypothesis =>
      rcases mem_of_mem_keepUnlessRepeated member with rfl | later
      · exact List.mem_cons_self
      · exact List.mem_cons_of_mem _ (inductionHypothesis later)

/-- No key gets lost by sorting. -/
theorem key_mem_sortByKey
    {entries : List (String × α)}
    {entry : String × α}
    (member : entry ∈ entries) :
    entry.1 ∈ (sortByKey entries).map Prod.fst := by
  have same := List.mergeSort_perm entries fun first second => decide (first.1 ≤ second.1)
  rw [← same.mem_iff] at member
  clear same
  rw [sortByKey, List.foldl_reverse]
  generalize entries.mergeSort _ = sorted at member ⊢
  induction sorted with
  | nil =>
      cases member
  | cons first rest inductionHypothesis =>
      rw [List.foldr_cons, keys_keepUnlessRepeated]
      rcases List.mem_cons.mp member with rfl | later
      · exact Or.inl rfl
      · exact Or.inr (inductionHypothesis later)

/-- What is found under a key is an entry, if no key has two values. -/
theorem lookup_eq_some_iff
    {entries : List (String × α)}
    {key : String}
    {value : α}
    (single :
      ∀ {first second}, (key, first) ∈ entries → (key, second) ∈ entries → first = second) :
    entries.lookup key = some value ↔ (key, value) ∈ entries := by
  induction entries with
  | nil =>
      simp
  | cons entry rest inductionHypothesis =>
      obtain ⟨other, held⟩ := entry
      by_cases same : key = other
      · subst same
        rw [List.lookup_cons_self, Option.some.injEq]
        constructor
        · rintro rfl
          exact List.mem_cons_self
        · exact single List.mem_cons_self
      · rw [List.lookup_cons, beq_eq_false_iff_ne.mpr same]
        have later := inductionHypothesis fun first second =>
          single (List.mem_cons_of_mem _ first) (List.mem_cons_of_mem _ second)
        simpa [same] using later

/-- Sorting does not change what is found under a key, if no key comes twice. -/
theorem lookup_sortByKey
    {entries : List (String × α)}
    (distinct : (entries.map Prod.fst).Nodup)
    (key : String) :
    (sortByKey entries).lookup key = entries.lookup key := by
  have single {first second : α} (here : (key, first) ∈ entries) (there : (key, second) ∈ entries) :
      first = second :=
    congrArg Prod.snd (List.inj_on_of_nodup_map distinct here there rfl)
  apply Option.ext
  intro value
  rw [lookup_eq_some_iff single, lookup_eq_some_iff fun first second =>
    single (mem_of_mem_sortByKey first) (mem_of_mem_sortByKey second)]
  constructor
  · exact mem_of_mem_sortByKey
  · intro member
    obtain ⟨⟨other, held⟩, sorted, rfl⟩ := List.mem_map.mp (key_mem_sortByKey member)
    exact single member (mem_of_mem_sortByKey sorted) ▸ sorted

end GraphBroker.Keyed
