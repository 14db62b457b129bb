import GraphBroker.Proofs.Fallible
import GraphBroker.Proofs.Json.Shape

namespace GraphBroker.Json

/-!
# What a record is made of

A record is read from a table, member by member under their names, or from a list, in the
order of declaration.  Either way each member is what is read at its place, or what the
shape says of a member that is left out.
-/

namespace Document

/-- What stands in a document for the member of a record with a position and a name. -/
def place? : Document → Nat → String → Option Document
  | .table members _, _, name => members.lookup (some name)
  | .list items _, index, _ => items[index]?
  | .null, _, _ | .flag _, _, _ | .number _, _, _ | .text _, _, _ | .unreadable _, _, _ => none

end Document

namespace Shape

/-- Each member of a record is what is read of what is found for it, or else may be left out. -/
def Drawn : (shape : Shape ρ) → (Nat → String → Option Document) → ρ → Prop
  | .nil, _, _ => True
  | .cons member rest, find, (value, others) =>
      (∀ document, find 0 member.name = some document → member.codec.read document = .ok value) ∧
      (find 0 member.name = none → member.absent = some value) ∧
      rest.Drawn (fun index => find (index + 1)) others

/-! ## Records from tables -/

/-- The places after some members were read: what was found is in its place, which was empty. -/
def Received :
    (shape : Shape ρ) → (String → Option Document) → shape.Slots → shape.Slots → Prop
  | .nil, _, _, _ => True
  | .cons member rest, find, before, after =>
      (∀ document, find member.name = some document →
        before.1 = none ∧ ∃ value, member.codec.read document = .ok value ∧ after.1 = some value) ∧
      (find member.name = none → after.1 = before.1) ∧
      rest.Received find before.2 after.2

theorem Received.unchanged
    {shape : Shape ρ}
    {find : String → Option Document}
    (nothing : ∀ name ∈ shape.names, find name = none)
    (slots : shape.Slots) :
    shape.Received find slots slots := by
  induction shape with
  | nil =>
      trivial
  | cons member rest inductionHypothesis =>
      refine ⟨?_, fun _ => rfl,
        inductionHypothesis (fun name known => nothing name (by simp [names, known])) _⟩
      intro document found
      rw [nothing member.name (by simp [names])] at found
      cases found

/-- One member fills the place of its name. -/
theorem received_of_fill
    {shape : Shape ρ}
    (distinct : shape.names.Nodup)
    {name : String}
    {document : Document}
    {before after : shape.Slots}
    (filled : shape.fill name document before = .ok after) :
    shape.Received (fun other => if other = name then some document else none) before after := by
  induction shape with
  | nil =>
      trivial
  | cons member rest inductionHypothesis =>
      obtain ⟨new, distinct⟩ := List.nodup_cons.mp distinct
      rw [fill] at filled
      split at filled
      · next same =>
          subst same
          split at filled
          · cases filled
          · next empty =>
              split at filled
              · next value read =>
                  cases filled
                  refine ⟨?_, fun absent => by simp at absent, .unchanged ?_ _⟩
                  · intro found given
                    obtain rfl : document = found := by simpa using given
                    exact ⟨empty, value, read, rfl⟩
                  · rintro other known
                    refine if_neg ?_
                    rintro rfl
                    exact new known
              · cases filled
      · next different =>
          cases others : rest.fill name document before.2 with
          | error error =>
              rw [others] at filled
              cases filled
          | ok slots =>
              rw [others] at filled
              cases filled
              refine ⟨?_, fun _ => rfl, inductionHypothesis distinct others⟩
              intro found given
              simp [Ne.symm different] at given

/-- A member of another name is passed over. -/
theorem lookup_cons_of_ne
    {name other : String}
    (different : other ≠ name)
    (document : Document)
    (members : List (Option String × Document)) :
    ((some name, document) :: members).lookup (some other) = members.lookup (some other) := by
  have passed : (some other == some name) = false := by simpa using different
  rw [List.lookup_cons, passed]

/-- What is found among one member and the rest. -/
theorem Received.cons
    {shape : Shape ρ}
    {name : String}
    {document : Document}
    {members : List (Option String × Document)}
    {before middle after : shape.Slots}
    (here : shape.Received (fun other => if other = name then some document else none) before middle)
    (later : shape.Received (fun other => members.lookup (some other)) middle after) :
    shape.Received (fun other => ((some name, document) :: members).lookup (some other))
      before after := by
  induction shape with
  | nil =>
      trivial
  | cons member rest inductionHypothesis =>
      obtain ⟨fills, keeps, here⟩ := here
      obtain ⟨fillsLater, keepsLater, later⟩ := later
      refine ⟨?_, ?_, inductionHypothesis here later⟩
      · intro found given
        by_cases same : member.name = name
        · obtain ⟨empty, value, read, filled⟩ := fills document (if_pos same)
          obtain rfl : document = found := by simpa [same] using given
          refine ⟨empty, value, read, ?_⟩
          -- The place is filled, so that the name does not come again.
          cases again : members.lookup (some member.name) with
          | none =>
              exact (keepsLater again).trans filled
          | some other =>
              rw [(fillsLater other again).1] at filled
              cases filled
        · replace given := (lookup_cons_of_ne same document members).symm.trans given
          obtain ⟨empty, value, read, filled⟩ := fillsLater found given
          exact ⟨(keeps (if_neg same)).symm.trans empty, value, read, filled⟩
      · intro absent
        have different : member.name ≠ name := by
          rintro rfl
          simp at absent
        have skipped := (lookup_cons_of_ne different document members).symm.trans absent
        exact (keepsLater skipped).trans (keeps (if_neg different))

theorem received_of_fillAll
    {shape : Shape ρ}
    (distinct : shape.names.Nodup)
    {members : List (Option String × Document)}
    {before after : shape.Slots}
    (filled : shape.fillAll members before = .ok after) :
    shape.Received (fun name => members.lookup (some name)) before after := by
  induction members generalizing before with
  | nil =>
      cases filled
      exact .unchanged (fun _ _ => rfl) _
  | cons member rest inductionHypothesis =>
      obtain ⟨name, document⟩ := member
      cases name with
      | none =>
          cases filled
      | some name =>
          rw [fillAll] at filled
          split at filled
          · next middle here =>
              exact .cons (received_of_fill distinct here) (inductionHypothesis filled)
          · cases filled

theorem drawn_of_finish
    {shape : Shape ρ}
    {find : String → Option Document}
    {slots : shape.Slots}
    {record : ρ}
    (received : shape.Received find shape.empty slots)
    (finished : shape.finish slots = .ok record) :
    shape.Drawn (fun _ => find) record := by
  induction shape with
  | nil =>
      trivial
  | cons member rest inductionHypothesis =>
      obtain ⟨value, others⟩ := record
      obtain ⟨held, slots⟩ := slots
      obtain ⟨fills, keeps, later⟩ := received
      obtain ⟨present, complete⟩ := finish_cons_iff.mp finished
      refine ⟨?_, ?_, inductionHypothesis later complete⟩
      · intro document found
        obtain ⟨-, other, read, same⟩ := fills document found
        obtain rfl : held = some other := same
        cases present
        exact read
      · intro absent
        obtain rfl : held = none := keeps absent
        exact present

/-! ## Records from lists -/

theorem drawn_of_readItems
    {shape : Shape ρ}
    {expected : String}
    {closed : Bool}
    {index : Nat}
    {items left : List Document}
    {record : ρ}
    (read : shape.readItems expected closed index items = .ok (record, left)) :
    shape.Drawn (fun position _ => items[position]?) record := by
  induction shape generalizing index items with
  | nil =>
      trivial
  | cons member rest inductionHypothesis =>
      cases items with
      | nil =>
          rw [readItems] at read
          split at read
          · split at read
            · cases read
            · next value absent =>
                cases others : rest.readItems expected closed (index + 1) [] with
                | error error =>
                    rw [others] at read
                    cases read
                | ok following =>
                    rw [others] at read
                    cases read
                    exact ⟨nofun, fun _ => absent, inductionHypothesis others⟩
          · cases read
      | cons item items =>
          rw [readItems] at read
          split at read
          · next value here =>
              cases others : rest.readItems expected closed (index + 1) items with
              | error error =>
                  rw [others] at read
                  cases read
              | ok following =>
                  rw [others] at read
                  cases read
                  refine ⟨?_, nofun, inductionHypothesis others⟩
                  rintro document ⟨⟩
                  exact here
          · cases read

/-- Whatever a record is read from, each of its members is drawn from its place. -/
theorem drawn_of_read
    {shape : Shape ρ}
    (distinct : shape.names.Nodup)
    {title : String}
    {document : Document}
    {record : ρ}
    (read : shape.read title document = .ok record) :
    shape.Drawn document.place? record := by
  cases document with
  | table members closed =>
      obtain ⟨slots, filled, finished⟩ := bind_eq_ok_iff.mp read
      split at finished
      · exact drawn_of_finish (received_of_fillAll distinct filled) finished
      · cases finished
  | list items closed =>
      obtain ⟨⟨other, left⟩, taken, finished⟩ := bind_eq_ok_iff.mp read
      have drawn := drawn_of_readItems taken
      dsimp only at finished
      split at finished
      · cases finished
      · split at finished
        · cases finished
          exact drawn
        · cases finished
  | null | flag _ | number _ | text _ | unreadable _ =>
      cases read

end Shape

end GraphBroker.Json
