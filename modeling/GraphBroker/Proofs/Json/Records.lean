import GraphBroker.Proofs.Fallible
import GraphBroker.Proofs.Json.Shape

namespace GraphBroker.Json

/-!
# What is read as a record or a list

A table is read as a record exactly if none of the record's names comes twice in it, each
member that is there is read, each that is not may be left out, and the rest can be passed
over.  A list is read as a record exactly if its items are read as the members in their
order, those that are lacking may be left out, and no item is left over.  As a list of
values it is read item by item.
-/

/-- The values of all entries with a key, in their order. -/
def valuesUnder [DecidableEq κ] (key : κ) (entries : List (κ × α)) : List α :=
  (entries.filter fun entry => entry.1 = key).map Prod.snd

section

variable [DecidableEq κ] {key other : κ} {value : α} {entries : List (κ × α)}

@[simp]
theorem valuesUnder_nil :
    valuesUnder key ([] : List (κ × α)) = [] :=
  rfl

theorem valuesUnder_cons_same :
    valuesUnder key ((key, value) :: entries) = value :: valuesUnder key entries := by
  simp [valuesUnder]

theorem valuesUnder_cons_of_ne
    (different : other ≠ key) :
    valuesUnder key ((other, value) :: entries) = valuesUnder key entries := by
  simp [valuesUnder, different]

/-- Entries with another key do not matter. -/
theorem valuesUnder_filter
    (different : other ≠ key) :
    valuesUnder key (entries.filter fun entry => entry.1 ≠ other) = valuesUnder key entries := by
  rw [valuesUnder, valuesUnder, List.filter_filter]
  congr 2
  funext entry
  by_cases same : entry.1 = key
  · simp [same, different.symm]
  · simp [same]

end

namespace Shape

/-! ## Tables -/

/-- What comes of a place when the values under the name of its member are read one by one. -/
inductive Fills (member : Member α) : List Document → Option α → Option α → Prop where
  | nothing (held : Option α) :
      Fills member [] held held
  | value {document : Document} {value : α}
      (read : member.codec.read document = .ok value) :
      Fills member [document] none (some value)

/-- A member is filled once, by a document that it reads. -/
theorem fills_cons_iff
    {member : Member α}
    {document : Document}
    {documents : List Document}
    {held filled : Option α} :
    Fills member (document :: documents) held filled ↔
      held = none ∧ ∃ value, member.codec.read document = .ok value ∧
        Fills member documents (some value) filled := by
  constructor
  · intro fills
    cases fills with
    | value read => exact ⟨rfl, _, read, .nothing _⟩
  · rintro ⟨rfl, value, read, fills⟩
    cases fills with
    | nothing => exact .value read

/-- The first place is filled by the members of its name, and the others by the rest. -/
theorem fillAll_cons_iff
    {member : Member α}
    {rest : Shape β}
    {members : List (Option String × Document)}
    {held filled : Option α}
    {slots others : rest.Slots} :
    (Shape.cons member rest).fillAll members (Slots.cons held slots) =
        .ok (Slots.cons filled others) ↔
      Fills member (valuesUnder (some member.name) members) held filled ∧
        rest.fillAll (members.filter fun entry => entry.1 ≠ some member.name) slots =
          .ok others := by
  induction members generalizing held slots with
  | nil =>
      constructor
      · intro same
        cases same
        exact ⟨.nothing _, rfl⟩
      · rintro ⟨fills, same⟩
        cases fills
        cases same
        rfl
  | cons entry members inductionHypothesis =>
      obtain ⟨key, document⟩ := entry
      cases key with
      | none =>
          simp [fillAll]
      | some name =>
          by_cases same : name = member.name
          · subst same
            rw [valuesUnder_cons_same, fills_cons_iff, List.filter_cons_of_neg (by simp), fillAll]
            cases held with
            | some value =>
                simp [fill, Slots.cons]
            | none =>
                cases outcome : member.codec.read document with
                | error error =>
                    simp [fill, Slots.cons, outcome]
                | ok value =>
                    have here : (Shape.cons member rest).fill member.name document
                        (Slots.cons none slots) = .ok (Slots.cons (some value) slots) := by
                      simp [fill, Slots.cons, outcome]
                    rw [here]
                    simpa using inductionHypothesis
          · have different : some name ≠ some member.name := by simpa using same
            rw [valuesUnder_cons_of_ne different, List.filter_cons_of_pos (by simpa using same),
              fillAll, fillAll]
            have here : (Shape.cons member rest).fill name document (Slots.cons held slots) =
                (rest.fill name document slots).map (Slots.cons held) := by
              simp [fill, same, Slots.cons]
            rw [here]
            cases rest.fill name document slots with
            | error error => simp [Except.map]
            | ok next => exact inductionHypothesis

/-- Where nothing is wanted, named and whole members are passed over. -/
theorem fillAll_nil_iff
    {members : List (Option String × Document)}
    {slots : Shape.nil.Slots} :
    Shape.nil.fillAll members slots = .ok slots ↔
      ∀ entry ∈ members, entry.1 ≠ none ∧ entry.2.whole = true := by
  induction members with
  | nil =>
      simp [fillAll]
  | cons entry members inductionHypothesis =>
      obtain ⟨key, document⟩ := entry
      cases key with
      | none => simp [fillAll]
      | some name =>
          rw [fillAll, fill, List.forall_mem_cons]
          cases whole : document.whole with
          | true => simpa [whole] using inductionHypothesis
          | false => simp

/-- Each member of a record is what is read of the one value found for it, or is left out. -/
def Taken : (shape : Shape ρ) → (String → List Document) → ρ → Prop
  | .nil, _, _ => True
  | .cons member rest, find, (value, others) =>
      (∃ held, Fills member (find member.name) none held ∧ held.or member.absent = some value) ∧
        rest.Taken find others

theorem taken_congr
    {shape : Shape ρ}
    {find other : String → List Document}
    (same : ∀ name ∈ shape.names, find name = other name)
    (record : ρ) :
    shape.Taken find record ↔ shape.Taken other record := by
  induction shape with
  | nil =>
      exact Iff.rfl
  | cons member rest inductionHypothesis =>
      obtain ⟨value, others⟩ := record
      rw [Taken, Taken, same member.name (by simp [names]),
        inductionHypothesis (fun name known => same name (by simp [names, known]))]

/-- A member of a table is known by its name, or can be passed over. -/
def Admits (shape : Shape ρ) (entry : Option String × Document) : Prop :=
  ∃ name, entry.1 = some name ∧ (name ∈ shape.names ∨ entry.2.whole = true)

/-- A record is read of a table that it admits and from which each member is taken. -/
theorem filled_and_finished_iff
    {shape : Shape ρ}
    (distinct : shape.names.Nodup)
    {members : List (Option String × Document)}
    {record : ρ} :
    (∃ slots, shape.fillAll members shape.empty = .ok slots ∧ shape.finish slots = .ok record) ↔
      (∀ entry ∈ members, shape.Admits entry) ∧
        shape.Taken (fun name => valuesUnder (some name) members) record := by
  induction shape generalizing members with
  | nil =>
      have passed : (∃ slots, Shape.nil.fillAll members Shape.nil.empty = .ok slots ∧
          Shape.nil.finish slots = .ok record) ↔
            Shape.nil.fillAll members Shape.nil.empty = .ok Shape.nil.empty :=
        ⟨fun ⟨_, filled, _⟩ => filled, fun filled => ⟨_, filled, rfl⟩⟩
      rw [passed, fillAll_nil_iff]
      simp [Admits, names, Taken, Option.ne_none_iff_exists']
  | cons member rest inductionHypothesis =>
      obtain ⟨value, others⟩ := record
      obtain ⟨new, distinct⟩ := List.nodup_cons.mp distinct
      let unmatched := members.filter fun entry => entry.1 ≠ some member.name
      have later :
          (∃ slots, rest.fillAll unmatched rest.empty = .ok slots ∧
              rest.finish slots = .ok others) ↔
            (∀ entry ∈ unmatched, rest.Admits entry) ∧
              rest.Taken (fun name => valuesUnder (some name) unmatched) others :=
        inductionHypothesis distinct
      -- The names of the later members do not see the members of the first name.
      have unseen : rest.Taken (fun name => valuesUnder (some name) unmatched) others ↔
          rest.Taken (fun name => valuesUnder (some name) members) others := by
        refine taken_congr (fun name known => valuesUnder_filter ?_) others
        rintro ⟨⟩
        exact new known
      have admitted :
          (∀ entry ∈ unmatched, rest.Admits entry) ↔
            ∀ entry ∈ members, (Shape.cons member rest).Admits entry := by
        refine ⟨fun each entry inside => ?_, fun each entry inside => ?_⟩
        · by_cases same : entry.1 = some member.name
          · exact ⟨_, same, Or.inl (by simp [names])⟩
          · obtain ⟨name, isKey, known⟩ := each entry (by simpa [unmatched, inside] using same)
            exact ⟨name, isKey, known.imp_left fun known => by simp [names, known]⟩
        · obtain ⟨inside, different⟩ := List.mem_filter.mp inside
          obtain ⟨name, isKey, known⟩ := each entry inside
          refine ⟨name, isKey, known.imp_left fun known => ?_⟩
          rcases List.mem_cons.mp known with rfl | known
          · simp [isKey] at different
          · exact known
      rw [unseen, admitted] at later
      rw [Taken, and_left_comm, ← later]
      constructor
      · rintro ⟨⟨held, slots⟩, filled, finished⟩
        obtain ⟨here, filled⟩ := fillAll_cons_iff.mp filled
        obtain ⟨present, finished⟩ := finish_cons_iff.mp finished
        exact ⟨⟨held, here, present⟩, slots, filled, finished⟩
      · rintro ⟨⟨held, here, present⟩, slots, filled, finished⟩
        exact ⟨Slots.cons held slots, fillAll_cons_iff.mpr ⟨here, filled⟩,
          finish_cons_iff.mpr ⟨present, finished⟩⟩

/-- What is read of a table as a record. -/
theorem read_table_iff
    {shape : Shape ρ}
    (distinct : shape.names.Nodup)
    {title : String}
    {members : List (Option String × Document)}
    {record : ρ} :
    shape.read title (.table members true) = .ok record ↔
      (∀ entry ∈ members, shape.Admits entry) ∧
        shape.Taken (fun name => valuesUnder (some name) members) record := by
  rw [← filled_and_finished_iff distinct]
  exact bind_eq_ok_iff

/-! ## Lists -/

/-- The members of a record are read of items in their order, or may be left out. -/
def InOrder : (shape : Shape ρ) → List Document → ρ → Prop
  | .nil, _, _ => True
  | .cons member rest, [], (value, others) => member.absent = some value ∧ rest.InOrder [] others
  | .cons member rest, item :: items, (value, others) =>
      member.codec.read item = .ok value ∧ rest.InOrder items others

/-- A record is read of the first items of a list, in order. -/
theorem readItems_iff
    {shape : Shape ρ}
    {expected : String}
    {index : Nat}
    {items left : List Document}
    {record : ρ} :
    shape.readItems expected true index items = .ok (record, left) ↔
      shape.InOrder items record ∧ left = items.drop shape.size := by
  induction shape generalizing index items with
  | nil =>
      simp [readItems, InOrder, size, eq_comm]
  | cons member rest inductionHypothesis =>
      obtain ⟨value, others⟩ := record
      cases items with
      | nil =>
          have later : rest.readItems expected true (index + 1) [] = .ok (others, left) ↔
              rest.InOrder [] others ∧ left = [] :=
            inductionHypothesis.trans (by rw [List.drop_nil])
          cases absent : member.absent with
          | none => simp [readItems, InOrder, absent]
          | some held =>
              simp only [readItems, InOrder, absent, map_eq_ok_iff, Option.some.injEq,
                List.drop_nil, if_true]
              constructor
              · rintro ⟨⟨found, remaining⟩, read, same⟩
                cases same
                exact ⟨⟨rfl, (later.mp read).1⟩, (later.mp read).2⟩
              · rintro ⟨⟨rfl, inOrder⟩, rfl⟩
                exact ⟨(others, []), later.mpr ⟨inOrder, rfl⟩, rfl⟩
      | cons item items =>
          have later : rest.readItems expected true (index + 1) items = .ok (others, left) ↔
              rest.InOrder items others ∧ left = items.drop rest.size :=
            inductionHypothesis
          cases outcome : member.codec.read item with
          | error error => simp [readItems, InOrder, outcome]
          | ok held =>
              simp only [readItems, InOrder, outcome, map_eq_ok_iff, Except.ok.injEq, size,
                List.drop_succ_cons]
              constructor
              · rintro ⟨⟨found, remaining⟩, read, same⟩
                cases same
                exact ⟨⟨rfl, (later.mp read).1⟩, (later.mp read).2⟩
              · rintro ⟨⟨rfl, inOrder⟩, rfl⟩
                exact ⟨(others, _), later.mpr ⟨inOrder, rfl⟩, rfl⟩

/-- What is read of a list as a record. -/
theorem read_list_iff
    {shape : Shape ρ}
    {title : String}
    {items : List Document}
    {record : ρ} :
    shape.read title (.list items true) = .ok record ↔
      shape.InOrder items record ∧ items.length ≤ shape.size := by
  rw [read, bind_eq_ok_iff]
  constructor
  · rintro ⟨⟨found, left⟩, taken, finished⟩
    obtain ⟨inOrder, rfl⟩ := readItems_iff.mp taken
    by_cases fits : items.drop shape.size = []
    · simp only [fits, List.isEmpty_nil, Bool.not_true, Bool.false_eq_true, if_false, if_true,
        Except.ok.injEq] at finished
      exact ⟨finished ▸ inOrder, List.drop_eq_nil_iff.mp fits⟩
    · simp [fits] at finished
  · rintro ⟨inOrder, short⟩
    refine ⟨(record, items.drop shape.size), readItems_iff.mpr ⟨inOrder, rfl⟩, ?_⟩
    simp [List.drop_eq_nil_of_le short]

end Shape

namespace Reader

/-- Items are read one after the other. -/
theorem itemsOnto_eq_ok_iff
    {reader : Reader α}
    {read values : List α}
    {index : Nat}
    {items : List Document} :
    itemsOnto reader read index items = .ok values ↔
      ∃ later, List.Forall₂ (fun item value => reader item = .ok value) items later ∧
        values = read.reverse ++ later := by
  induction items generalizing read index with
  | nil =>
      simp [itemsOnto, eq_comm]
  | cons item rest inductionHypothesis =>
      simp only [itemsOnto, List.forall₂_cons_left_iff]
      cases reader item with
      | error error => simp
      | ok value =>
          simp only [inductionHypothesis, List.reverse_cons, List.append_assoc,
            List.singleton_append, Except.ok.injEq]
          constructor
          · rintro ⟨later, read, rfl⟩
            exact ⟨value :: later, ⟨value, later, rfl, read, rfl⟩, rfl⟩
          · rintro ⟨_, ⟨_, later, rfl, read, rfl⟩, rfl⟩
            exact ⟨later, read, rfl⟩

/-- A list is read item by item. -/
theorem list_eq_ok_iff
    {reader : Reader α}
    {items : List Document}
    {values : List α} :
    list reader (.list items true) = .ok values ↔
      List.Forall₂ (fun item value => reader item = .ok value) items values := by
  rw [list, bind_eq_ok_iff]
  simp only [itemsOnto_eq_ok_iff, if_true, List.reverse_nil, List.nil_append, Except.ok.injEq]
  constructor
  · rintro ⟨_, ⟨later, read, rfl⟩, rfl⟩
    exact read
  · exact fun read => ⟨values, ⟨values, read, rfl⟩, rfl⟩

end Reader

end GraphBroker.Json
