import GraphBroker.Proofs.Json.Values

namespace GraphBroker.Json

/-!
# Values that have been read

A table whose first key stands for a JSON text is read as the value of that text.
So no value that was read has an object with this key alone, and an object with
this key in front of others cannot be read at all.  A value that was read before
and can be read again is therefore plain.
-/

/-- The value is no object that has only a member that stands for a JSON text. -/
def IsResolved (value : Json) : Prop :=
  ∀ held, value ≠ .object [(Reader.embeddedKey, held)]

/-! ## Parts of a document -/

namespace Document

/-- The items of a list or the values of a table. -/
def parts : Document → List Document
  | .list items _ => items
  | .table members _ => members.map Prod.snd
  | .null | .flag _ | .number _ | .text _ | .unreadable _ => []

/-- A part of a document is smaller than the document. -/
theorem sizeOf_lt_of_mem_parts
    {document part : Document}
    (member : part ∈ document.parts) :
    sizeOf part < sizeOf document := by
  cases document with
  | list items closed =>
      have inItems : part ∈ items := member
      have smaller := List.sizeOf_lt_of_mem inItems
      simp only [list.sizeOf_spec]
      omega
  | table members closed =>
      obtain ⟨⟨key, value⟩, inMembers, rfl⟩ := List.mem_map.mp member
      have smaller := List.sizeOf_lt_of_mem inMembers
      simp only [Prod.mk.sizeOf_spec] at smaller
      simp only [table.sizeOf_spec]
      omega
  | null | flag value | number value | text value | unreadable whole =>
      cases member

/-- What holds of a document if it holds of its parts holds of every document. -/
theorem of_parts
    {motive : Document → Prop}
    (step : ∀ document, (∀ part ∈ document.parts, motive part) → motive document)
    (document : Document) :
    motive document :=
  step document fun part _ => of_parts step part
termination_by sizeOf document
decreasing_by exact sizeOf_lt_of_mem_parts ‹_›

end Document

/-! ## What is read -/

namespace Reader

variable {textReader : String → Except ReadError Json}

theorem valuesOnto_cons_iff
    {read values : List Json}
    {index : Nat}
    {item : Document}
    {rest : List Document} :
    valuesOnto textReader read index (item :: rest) = .ok values ↔
      ∃ value, valueWith textReader item = .ok value ∧
        valuesOnto textReader (value :: read) (index + 1) rest = .ok values := by
  rw [valuesOnto]
  cases valueWith textReader item <;> simp

theorem membersOnto_cons_iff
    {read entries : List (String × Json)}
    {key : Option String}
    {document : Document}
    {rest : List (Option String × Document)} :
    membersOnto textReader read ((key, document) :: rest) = .ok entries ↔
      ∃ name value, key = some name ∧ valueWith textReader document = .ok value ∧
        membersOnto textReader ((name, value) :: read) rest = .ok entries := by
  cases key with
  | none =>
      simp [membersOnto]
  | some name =>
      rw [membersOnto]
      cases valueWith textReader document <;> simp

/-- What is read of a table that stands for a text is what is read of the text. -/
theorem text_of_embedded
    {count : Nat}
    {closed : Bool}
    {held : Document}
    {value : Json}
    (read : embedded textReader count closed held = .ok value) :
    ∃ text, textReader text = .ok value ∧ count ≤ 1 := by
  cases held with
  | text text =>
      rw [embedded] at read
      split at read
      · cases read
      · next found here =>
          split at read
          · cases read
          · split at read
            · cases read
            · next few =>
                cases read
                exact ⟨text, here, Nat.le_of_not_lt few⟩
  | null | flag value | number value | list items closed | table members closed | unreadable whole =>
      cases read

/-- A list is read if all of its items are. -/
theorem array_of_list
    {items : List Document}
    {closed : Bool}
    {value : Json}
    (read : valueWith textReader (.list items closed) = .ok value) :
    ∃ values, valuesOnto textReader [] 0 items = .ok values ∧ value = .array values := by
  rw [valueWith] at read
  split at read
  · next values all =>
      split at read
      · cases read
        exact ⟨values, all, rfl⟩
      · cases read
  · cases read

/-- A table is read as the text that it stands for, or else if all of its members are read. -/
theorem text_or_object_of_table
    {members : List (Option String × Document)}
    {closed : Bool}
    {value : Json}
    (read : valueWith textReader (.table members closed) = .ok value) :
    (∃ held count text,
      embedded? members = some (held, count) ∧ count ≤ 1 ∧ textReader text = .ok value) ∨
      ∃ entries,
        embedded? members = none ∧ membersOnto textReader [] members = .ok entries ∧
          value = .object (sortByKey entries) := by
  rw [valueWith] at read
  split at read
  · next held count stands =>
      obtain ⟨text, found, few⟩ := text_of_embedded read
      exact Or.inl ⟨held, count, text, stands, few, found⟩
  · next ordinary =>
      split at read
      · next entries all =>
          split at read
          · cases read
            exact Or.inr ⟨entries, ordinary, all, rfl⟩
          · cases read
      · cases read

theorem mem_valuesOnto
    {read values : List Json}
    {index : Nat}
    {items : List Document}
    (all : valuesOnto textReader read index items = .ok values)
    {value : Json}
    (member : value ∈ values) :
    value ∈ read ∨ ∃ item ∈ items, valueWith textReader item = .ok value := by
  induction items generalizing read index with
  | nil =>
      rw [valuesOnto] at all
      cases all
      exact Or.inl (List.mem_reverse.mp member)
  | cons item rest inductionHypothesis =>
      obtain ⟨first, here, later⟩ := valuesOnto_cons_iff.mp all
      rcases inductionHypothesis later with before | ⟨other, inRest, found⟩
      · rcases List.mem_cons.mp before with rfl | before
        · exact Or.inr ⟨item, List.mem_cons_self, here⟩
        · exact Or.inl before
      · exact Or.inr ⟨other, List.mem_cons_of_mem _ inRest, found⟩

theorem ok_of_valuesOnto
    {read values : List Json}
    {index : Nat}
    {items : List Document}
    (all : valuesOnto textReader read index items = .ok values)
    {item : Document}
    (member : item ∈ items) :
    ∃ value, valueWith textReader item = .ok value := by
  induction items generalizing read index with
  | nil =>
      cases member
  | cons first rest inductionHypothesis =>
      obtain ⟨value, here, later⟩ := valuesOnto_cons_iff.mp all
      rcases List.mem_cons.mp member with rfl | inRest
      · exact ⟨value, here⟩
      · exact inductionHypothesis later inRest

theorem mem_membersOnto
    {read entries : List (String × Json)}
    {members : List (Option String × Document)}
    (all : membersOnto textReader read members = .ok entries)
    {entry : String × Json}
    (member : entry ∈ entries) :
    entry ∈ read ∨
      ∃ document, (some entry.1, document) ∈ members ∧
        valueWith textReader document = .ok entry.2 := by
  induction members generalizing read with
  | nil =>
      rw [membersOnto] at all
      cases all
      exact Or.inl (List.mem_reverse.mp member)
  | cons first rest inductionHypothesis =>
      obtain ⟨key, document⟩ := first
      obtain ⟨name, value, rfl, here, later⟩ := membersOnto_cons_iff.mp all
      rcases inductionHypothesis later with before | ⟨other, inRest, found⟩
      · rcases List.mem_cons.mp before with rfl | before
        · exact Or.inr ⟨document, List.mem_cons_self, here⟩
        · exact Or.inl before
      · exact Or.inr ⟨other, List.mem_cons_of_mem _ inRest, found⟩

/-- What has been read before stays among what is read. -/
theorem mem_membersOnto_of_mem
    {read entries : List (String × Json)}
    {members : List (Option String × Document)}
    (all : membersOnto textReader read members = .ok entries)
    {entry : String × Json}
    (member : entry ∈ read) :
    entry ∈ entries := by
  induction members generalizing read with
  | nil =>
      rw [membersOnto] at all
      cases all
      exact List.mem_reverse.mpr member
  | cons first rest inductionHypothesis =>
      obtain ⟨_, _, _, _, later⟩ := membersOnto_cons_iff.mp all
      exact inductionHypothesis later (List.mem_cons_of_mem _ member)

theorem ok_of_membersOnto
    {read entries : List (String × Json)}
    {members : List (Option String × Document)}
    (all : membersOnto textReader read members = .ok entries)
    {key : Option String}
    {document : Document}
    (member : (key, document) ∈ members) :
    ∃ name value, key = some name ∧ valueWith textReader document = .ok value ∧
      (name, value) ∈ entries := by
  induction members generalizing read with
  | nil =>
      cases member
  | cons first rest inductionHypothesis =>
      obtain ⟨name, value, isKey, here, later⟩ := membersOnto_cons_iff.mp all
      rcases List.mem_cons.mp member with isFirst | inRest
      · cases isFirst
        exact ⟨name, value, isKey, here, mem_membersOnto_of_mem later List.mem_cons_self⟩
      · exact inductionHypothesis later inRest

/-! ## What is read is resolved -/

/-- The key in front of a table that does not stand for a text. -/
theorem key_ne_of_not_embedded
    {key : String}
    {document : Document}
    {rest : List (Option String × Document)}
    (ordinary : embedded? ((some key, document) :: rest) = none) :
    key ≠ embeddedKey := by
  rintro rfl
  simp [embedded?] at ordinary

/-- The members of a table that does not stand for a text do not make up an object that does. -/
theorem resolved_of_membersOnto
    {members : List (Option String × Document)}
    (ordinary : embedded? members = none)
    {entries : List (String × Json)}
    (read : membersOnto textReader [] members = .ok entries) :
    IsResolved (.object (sortByKey entries)) := by
  rintro held alone
  have sorted : sortByKey entries = [(embeddedKey, held)] := Json.object.inj alone
  have member : (embeddedKey, held) ∈ entries :=
    Keyed.mem_of_mem_sortByKey (sorted ▸ List.mem_singleton_self _)
  cases members with
  | nil =>
      rw [membersOnto] at read
      cases read
      cases member
  | cons first rest =>
      obtain ⟨key, document⟩ := first
      obtain ⟨name, value, rfl, _, member⟩ := ok_of_membersOnto read List.mem_cons_self
      have kept := Keyed.key_mem_sortByKey member
      rw [sorted] at kept
      exact key_ne_of_not_embedded ordinary (List.mem_singleton.mp kept)

/-- What is read of any document is resolved, if what is read of texts is. -/
theorem resolved_of_valueWith
    (resolves : ∀ {text value}, textReader text = .ok value → value.Throughout IsResolved)
    {document : Document}
    {value : Json}
    (read : valueWith textReader document = .ok value) :
    value.Throughout IsResolved := by
  induction document using Document.of_parts generalizing value with
  | step document inductionHypothesis =>
      cases document with
      | null | flag held | number held | text held =>
          cases read
          exact .of_undivided nofun rfl
      | unreadable whole =>
          cases read
      | list items closed =>
          obtain ⟨values, all, rfl⟩ := array_of_list read
          refine .intro nofun ?_
          intro part member
          rcases mem_valuesOnto all member with before | ⟨item, inItems, found⟩
          · cases before
          · exact inductionHypothesis item inItems found
      | table members closed =>
          rcases text_or_object_of_table read with
            ⟨_, _, _, _, _, found⟩ | ⟨entries, ordinary, all, rfl⟩
          · exact resolves found
          · refine .intro (resolved_of_membersOnto ordinary all) ?_
            intro part member
            obtain ⟨entry, inSorted, rfl⟩ := List.mem_map.mp member
            have inEntries := Keyed.mem_of_mem_sortByKey inSorted
            rcases mem_membersOnto all inEntries with before | ⟨held, inMembers, found⟩
            · cases before
            · exact inductionHypothesis held (List.mem_map_of_mem inMembers) found

/-- No object in a value that is read stands for a text any more. -/
theorem resolved_of_valueOfText
    {text : String}
    {value : Json}
    (read : valueOfText text = .ok value) :
    value.Throughout IsResolved := by
  induction length : text.length using Nat.strongRecOn generalizing text value with
  | ind size inductionHypothesis =>
      rw [valueOfText, source] at read
      split at read
      · next found root =>
          split at read
          · cases read
            refine resolved_of_valueWith ?_ root
            intro held inner within
            -- A text inside the text is shorter.
            split at within
            · next shorter => exact inductionHypothesis _ (length ▸ shorter) within rfl
            · cases within
          · cases read
      · cases read

/-- A value that has been read has no object with only a member that stands for a text. -/
theorem resolved_of_value
    {document : Document}
    {value : Json}
    (read : Reader.value document = .ok value) :
    value.Throughout IsResolved :=
  resolved_of_valueWith resolved_of_valueOfText read

/-! ## What can be read -/

theorem plain_of_not_embedded
    {members : List (String × Json)}
    (ordinary :
      embedded? (members.map fun member => (some member.1, Document.ofJson member.2)) = none) :
    IsPlain (.object members) := by
  cases members with
  | nil =>
      trivial
  | cons first rest =>
      exact key_ne_of_not_embedded ordinary

/-- A resolved object with a key for a JSON text in front has more members than that. -/
theorem plural_of_embedded
    {members : List (String × Json)}
    (resolved : IsResolved (.object members))
    {held : Document}
    {count : Nat}
    (stands :
      embedded? (members.map fun member => (some member.1, Document.ofJson member.2)) =
        some (held, count)) :
    1 < count := by
  match members with
  | [] =>
      cases stands
  | (key, value) :: rest =>
      simp only [List.map_cons, embedded?] at stands
      split at stands
      · next same =>
          cases stands
          cases rest with
          | nil => exact absurd (by rw [same]) (resolved value)
          | cons second others => simp
      · cases stands

/-- A resolved value whose document can be read is plain. -/
theorem plain_of_ok
    {value : Json}
    (resolved : value.Throughout IsResolved)
    {found : Json}
    (read : valueWith textReader (Document.ofJson value) = .ok found) :
    value.Throughout IsPlain := by
  induction resolved generalizing found with
  | @intro value here inside inductionHypothesis =>
      cases value with
      | null | bool value | number value | text value =>
          exact .of_undivided trivial rfl
      | array items =>
          rw [Document.ofJson_array] at read
          obtain ⟨values, all, rfl⟩ := array_of_list read
          refine .intro trivial ?_
          intro part member
          obtain ⟨value, item⟩ := ok_of_valuesOnto all (List.mem_map_of_mem member)
          exact inductionHypothesis part member item
      | object members =>
          rw [Document.ofJson_object] at read
          rcases text_or_object_of_table read with
            ⟨_, count, _, stands, few, _⟩ | ⟨entries, ordinary, all, rfl⟩
          · have many := plural_of_embedded here stands
            omega
          · refine .intro (plain_of_not_embedded ordinary) ?_
            intro part member
            obtain ⟨⟨key, value⟩, inMembers, rfl⟩ := List.mem_map.mp member
            obtain ⟨_, _, _, found, _⟩ := ok_of_membersOnto all (List.mem_map_of_mem inMembers)
            exact inductionHypothesis value member found

/-- A value that has been read and can be read again is plain. -/
theorem plain_of_readings
    {document : Document}
    {value found : Json}
    (read : Reader.value document = .ok value)
    (again : Reader.value (Document.ofJson value) = .ok found) :
    value.Throughout IsPlain :=
  plain_of_ok (resolved_of_value read) again

/-- Exactly the plain values are read as themselves. -/
theorem value_ofJson_iff
    {value : Json}
    (sorted : value.Throughout IsSorted) :
    Reader.value (Document.ofJson value) = .ok value ↔ value.Throughout IsPlain := by
  constructor
  · intro read
    exact plain_of_readings read read
  · exact valueWith_ofJson sorted

end Reader

end GraphBroker.Json
