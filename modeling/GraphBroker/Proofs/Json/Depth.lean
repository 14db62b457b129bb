import GraphBroker.Proofs.Json.Readings

namespace GraphBroker.Json

/-!
# Values that are nested too deep

What is nested deeper than the limit comes back without a value, and what has no value
cannot be read.  So nothing is read of a document that is nested too deep, not even in
part; and within the limit different values are written as different documents.
-/

namespace Document

/-! ## What is clipped -/

theorem clipItems_eq_map
    (depth : Nat)
    (items : List Document) :
    clipItems depth items = items.map (clip depth) := by
  induction items with
  | nil =>
      rfl
  | cons item rest inductionHypothesis =>
      rw [clipItems, inductionHypothesis, List.map_cons]

theorem clipMembers_eq_map
    (depth : Nat)
    (members : List (Option String × Document)) :
    clipMembers depth members = members.map fun member => (member.1, clip depth member.2) := by
  induction members with
  | nil =>
      rfl
  | cons member rest inductionHypothesis =>
      rw [clipMembers, inductionHypothesis, List.map_cons]

/-- What comes back as a text was a text. -/
theorem eq_text_of_clip
    {depth : Nat}
    {document : Document}
    {text : String}
    (same : clip depth document = .text text) :
    document = .text text := by
  cases document with
  | list items closed | table members closed =>
      rw [clip] at same
      split at same <;> cases same
  | null | flag _ | number _ | text _ | unreadable _ =>
      exact same

end Document

/-! ## What is read -/

namespace Reader

variable {textReader : String → Except ReadError Json}

/-- A table that is read as the JSON text for which it stands holds that text and nothing else. -/
theorem single_of_embedded
    {members : List (Option String × Document)}
    {closed : Bool}
    {held : Document}
    {count : Nat}
    {value : Json}
    (read : valueWith textReader (.table members closed) = .ok value)
    (stands : embedded? members = some (held, count)) :
    ∃ text, members = [(some embeddedKey, .text text)] := by
  rw [valueWith, stands] at read
  obtain ⟨_, _, few⟩ := text_of_embedded read
  cases held with
  | null | flag _ | number _ | list _ _ | table _ _ | unreadable _ =>
      cases read
  | text text =>
      unfold embedded? at stands
      split at stands
      · next key document rest =>
          split at stands
          · next same =>
              cases stands
              obtain rfl : rest = [] := List.length_eq_zero_iff.mp (by omega)
              exact ⟨text, by rw [same]⟩
          · cases stands
      · cases stands

/-- Something is read of a document only if all of it comes back. -/
theorem shallow_of_valueWith
    {document : Document}
    {depth : Nat}
    (inside : depth ≤ depthLimit)
    {value : Json}
    (read : valueWith textReader (document.clip depth) = .ok value) :
    depth + document.nesting ≤ depthLimit := by
  induction document using Document.of_parts generalizing depth value with
  | step document inductionHypothesis =>
      cases document with
      | null | flag _ | number _ | text _ | unreadable _ =>
          exact inside
      | list items closed =>
          rw [Document.clip] at read
          split at read
          · cases read
          · next fits =>
              rw [Document.clipItems_eq_map] at read
              obtain ⟨values, all, -⟩ := array_of_list read
              have each : ∀ item ∈ items, item.nesting ≤ depthLimit - (depth + 1) := by
                intro item member
                obtain ⟨_, here⟩ := ok_of_valuesOnto all (List.mem_map_of_mem member)
                have shallow := inductionHypothesis item member (by omega) here
                omega
              have bounded := Document.itemsNesting_le each
              rw [Document.nesting]
              omega
      | table members closed =>
          rw [Document.clip] at read
          split at read
          · cases read
          · next fits =>
              rw [Document.clipMembers_eq_map] at read
              have each : ∀ member ∈ members, member.2.nesting ≤ depthLimit - (depth + 1) := by
                rcases text_or_object_of_table read with
                  ⟨held, count, _, stands, -, -⟩ | ⟨entries, -, all, -⟩
                · -- The table stands for a text, which holds no container.
                  obtain ⟨text, single⟩ := single_of_embedded read stands
                  obtain ⟨member, rfl, clipped⟩ := List.map_eq_singleton_iff.mp single
                  have isText := Document.eq_text_of_clip (Prod.mk.inj clipped).2
                  intro other inMembers
                  obtain rfl := List.mem_singleton.mp inMembers
                  rw [isText]
                  exact Nat.zero_le _
                · intro member inMembers
                  obtain ⟨_, _, -, here, -⟩ := ok_of_membersOnto all (List.mem_map_of_mem inMembers)
                  have shallow := inductionHypothesis member.2 (List.mem_map_of_mem inMembers)
                    (by omega) here
                  omega
              have bounded := Document.membersNesting_le each
              rw [Document.nesting]
              omega

end Reader

/-! ## What is written -/

namespace Document

theorem eq_of_map_eq
    {write : α → β}
    {values others : List α}
    (injective : ∀ value ∈ values, ∀ other, write value = write other → value = other)
    (same : values.map write = others.map write) :
    values = others := by
  induction values generalizing others with
  | nil =>
      exact (List.map_eq_nil_iff.mp same.symm).symm
  | cons value rest inductionHypothesis =>
      cases others with
      | nil =>
          cases same
      | cons other more =>
          obtain ⟨here, later⟩ := List.cons.inj same
          have rests := inductionHypothesis
            (fun value member => injective value (List.mem_cons_of_mem _ member)) later
          rw [injective value List.mem_cons_self other here, rests]

/-- Different values are written as different documents. -/
theorem ofJson_injective :
    Function.Injective ofJson := by
  intro value other same
  generalize written : ofJson value = document at same
  induction document using of_parts generalizing value other with
  | step document inductionHypothesis =>
      subst written
      cases value with
      | null | bool _ | number _ | text _ =>
          cases other <;> simp_all [ofJson]
      | array items =>
          cases other with
          | array others =>
              simp only [ofJson_array, list.injEq, and_true] at same
              refine congrArg Json.array (eq_of_map_eq ?_ same)
              intro item member other equal
              exact inductionHypothesis (ofJson item)
                (by simpa [parts] using ⟨item, member, rfl⟩) rfl equal
          | null | bool _ | number _ | text _ | object _ =>
              simp [ofJson] at same
      | object members =>
          cases other with
          | object others =>
              simp only [ofJson_object, table.injEq, and_true] at same
              refine congrArg Json.object (eq_of_map_eq ?_ same)
              intro member inMembers other equal
              obtain ⟨key, document⟩ := Prod.mk.inj equal
              have value := inductionHypothesis (ofJson member.2)
                (by simpa [parts] using ⟨member.1, member.2, inMembers, rfl⟩) rfl document
              exact Prod.ext (Option.some.inj key) value
          | null | bool _ | number _ | text _ | array _ =>
              simp [ofJson] at same

end Document

end GraphBroker.Json
