import GraphBroker.Json.Shape

namespace GraphBroker.Json

/-!
# Records that are read back

A record is written member by member and read into one place for each member.
If no two members have one name, the record read is made of what each member is
read as.
-/

namespace Shape

def names : Shape ρ → List String
  | .nil => []
  | .cons member rest => member.name :: rest.names

/-- A record is read as another: each member as it is written, one left out as the shape says. -/
def ReadsAs : (shape : Shape ρ) → ρ → ρ → Prop
  | .nil, _, _ => True
  | .cons member rest, (value, others), (found, foundOthers) =>
      (if member.omits value then member.absent = some found
        else member.codec.read (member.codec.write value) = .ok found) ∧
      rest.ReadsAs others foundOthers

/-- The place of a member once the member has been read that was written. -/
def filledPlace (member : Member α) (value : α) : Except ReadError (Option α) :=
  if member.omits value then
    .ok none
  else
    match member.codec.read (member.codec.write value) with
    | .ok found => .ok (some found)
    | .error error => .error (error.within (.member member.name))

/-- The places once a record has been read that was written. -/
def filled : (shape : Shape ρ) → ρ → Except ReadError shape.Slots
  | .nil, _ => .ok ()
  | .cons member rest, (value, others) =>
      match filledPlace member value with
      | .ok held => (rest.filled others).map (Slots.cons held)
      | .error error => .error error

/-- The members of a record as a reader meets them. -/
def written (shape : Shape ρ) (record : ρ) : List (Option String × Document) :=
  (shape.write record).map fun member => (some member.1, member.2)

theorem name_of_mem_written
    {shape : Shape ρ}
    {record : ρ}
    {name : String}
    {document : Document}
    (member : (some name, document) ∈ shape.written record) :
    name ∈ shape.names := by
  induction shape with
  | nil =>
      simp [written, write] at member
  | cons first rest inductionHypothesis =>
      obtain ⟨value, others⟩ := record
      simp only [written, write] at member
      split at member
      · exact List.mem_cons_of_mem _ (inductionHypothesis member)
      · simp only [List.map_cons, List.mem_cons, Prod.mk.injEq, Option.some.injEq] at member
        rcases member with ⟨rfl, _⟩ | later
        · exact List.mem_cons_self
        · exact List.mem_cons_of_mem _ (inductionHypothesis later)

/-- Members of other names leave the place of a member alone. -/
theorem fillAll_cons_of_other
    {member : Member α}
    (held : Option α)
    {rest : Shape β}
    {members : List (Option String × Document)}
    (other : ∀ name document, (some name, document) ∈ members → name ≠ member.name)
    (slots : rest.Slots) :
    (Shape.cons member rest).fillAll members (Slots.cons held slots) =
      (rest.fillAll members slots).map (Slots.cons held) := by
  induction members generalizing slots with
  | nil =>
      rfl
  | cons first others inductionHypothesis =>
      obtain ⟨name, document⟩ := first
      cases name with
      | none =>
          rfl
      | some name =>
          have different := other name document (by simp)
          have skipped : (Shape.cons member rest).fill name document (Slots.cons held slots) =
              (rest.fill name document slots).map (Slots.cons held) := by
            simp [fill, different, Slots.cons]
          rw [fillAll, fillAll, skipped]
          cases rest.fill name document slots with
          | error error =>
              rfl
          | ok next =>
              exact inductionHypothesis
                (fun name document member => other name document (by simp [member])) next

/-- Reading what a record was written as fills each place with its member. -/
theorem fillAll_written
    {shape : Shape ρ}
    (distinct : shape.names.Nodup)
    (record : ρ) :
    shape.fillAll (shape.written record) shape.empty = shape.filled record := by
  induction shape with
  | nil =>
      rfl
  | cons member rest inductionHypothesis =>
      obtain ⟨value, others⟩ := record
      have parts := List.nodup_cons.mp distinct
      have read := inductionHypothesis parts.2 others
      -- The members that follow have other names, and leave the first place alone.
      have other : ∀ name document, (some name, document) ∈ rest.written others →
          name ≠ member.name := by
        rintro name document inRest rfl
        exact parts.1 (name_of_mem_written inRest)
      by_cases omitted : member.omits value
      · have kept := fillAll_cons_of_other none other rest.empty
        rw [read] at kept
        simpa [written, write, filled, filledPlace, omitted, empty, Slots.cons] using kept
      · cases outcome : member.codec.read (member.codec.write value) with
        | error error =>
            simp [written, write, filled, filledPlace, fillAll, fill, omitted, empty, outcome]
        | ok found =>
            have kept := fillAll_cons_of_other (some found) other rest.empty
            rw [read] at kept
            simpa [written, write, filled, filledPlace, fillAll, fill, omitted, empty, outcome]
              using kept

theorem filledPlace_iff
    {member : Member α}
    {value found : α} :
    (∃ held, filledPlace member value = .ok held ∧ held.or member.absent = some found) ↔
      if member.omits value then member.absent = some found
      else member.codec.read (member.codec.write value) = .ok found := by
  by_cases omitted : member.omits value
  · simp [filledPlace, omitted]
  · cases outcome : member.codec.read (member.codec.write value) with
    | error error => simp [filledPlace, omitted, outcome]
    | ok value => simp [filledPlace, omitted, outcome]

theorem filled_cons_iff
    {member : Member α}
    {rest : Shape β}
    {value : α}
    {others : β}
    {held : Option α}
    {slots : rest.Slots} :
    (Shape.cons member rest).filled (value, others) = .ok (Slots.cons held slots) ↔
      filledPlace member value = .ok held ∧ rest.filled others = .ok slots := by
  cases here : filledPlace member value with
  | error error => simp [filled, here]
  | ok place =>
      cases later : rest.filled others with
      | error error => simp [filled, here, later, Except.map]
      | ok places =>
          have both : (Shape.cons member rest).filled (value, others) =
              .ok (Slots.cons place places) := by
            simp [filled, here, later, Except.map]
          rw [both]
          constructor
          · intro same
            cases same
            exact ⟨rfl, rfl⟩
          · rintro ⟨⟨⟩, ⟨⟩⟩
            rfl

theorem finish_cons_iff
    {member : Member α}
    {rest : Shape β}
    {held : Option α}
    {slots : rest.Slots}
    {found : α}
    {others : β} :
    (Shape.cons member rest).finish (Slots.cons held slots) = .ok (found, others) ↔
      held.or member.absent = some found ∧ rest.finish slots = .ok others := by
  cases here : held.or member.absent with
  | none => simp [finish, Slots.cons, here]
  | some value =>
      cases later : rest.finish slots with
      | error error => simp [finish, Slots.cons, here, later, Except.map]
      | ok record => simp [finish, Slots.cons, here, later, Except.map]

/-- A record is read back exactly when each of its members is. -/
theorem finish_filled_iff
    {shape : Shape ρ}
    {record other : ρ} :
    (∃ slots, shape.filled record = .ok slots ∧ shape.finish slots = .ok other) ↔
      shape.ReadsAs record other := by
  induction shape with
  | nil =>
      exact ⟨fun _ => trivial, fun _ => ⟨(), rfl, rfl⟩⟩
  | cons member rest inductionHypothesis =>
      obtain ⟨value, others⟩ := record
      obtain ⟨found, foundOthers⟩ := other
      rw [ReadsAs, ← filledPlace_iff, ← inductionHypothesis]
      constructor
      · rintro ⟨⟨held, slots⟩, filled, finished⟩
        obtain ⟨here, later⟩ := filled_cons_iff.mp filled
        obtain ⟨present, complete⟩ := finish_cons_iff.mp finished
        exact ⟨⟨held, here, present⟩, slots, later, complete⟩
      · rintro ⟨⟨held, here, present⟩, slots, later, complete⟩
        exact ⟨Slots.cons held slots, filled_cons_iff.mpr ⟨here, later⟩,
          finish_cons_iff.mpr ⟨present, complete⟩⟩

/-- A record is read as what its members are read as. -/
theorem read_write_iff
    {shape : Shape ρ}
    (distinct : shape.names.Nodup)
    (title : String)
    {record other : ρ} :
    shape.read title (.ofMembers (shape.write record)) = .ok other ↔
      shape.ReadsAs record other := by
  have filled := fillAll_written distinct record
  rw [written] at filled
  rw [← finish_filled_iff]
  simp only [read, Document.ofMembers, filled, bind, Except.bind, if_true]
  cases shape.filled record with
  | error error => simp
  | ok slots => simp

end Shape

/-- What a record type's codec reads of a record that it writes. -/
theorem Codec.read_write_record_iff
    {title : String}
    {shape : Shape ρ}
    {pack : ρ → α}
    {unpack : α → ρ}
    (distinct : shape.names.Nodup)
    {record found : α} :
    (Codec.record title shape pack unpack).read
        ((Codec.record title shape pack unpack).write record) =
      .ok found ↔
      ∃ members, shape.ReadsAs (unpack record) members ∧ pack members = found := by
  simp only [Codec.record, ← Shape.read_write_iff distinct title]
  cases shape.read title (.ofMembers (shape.write (unpack record))) with
  | error error => simp [Except.map]
  | ok members => simp [Except.map]

end GraphBroker.Json
