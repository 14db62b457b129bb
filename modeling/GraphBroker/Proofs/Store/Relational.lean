import GraphBroker.Proofs.Store.Tables

namespace GraphBroker.Store

/-!
# The answers of a relational store

A relational store holds records as stored texts, and serves every call on them.
What it answers can therefore be said without a word about rows and numbers.
-/

/-- Records that are held as stored texts. -/
def Reading.stored : Reading String String :=
  ⟨readStored ServiceInstance.codec, readStored ServiceBinding.codec⟩

/-- Records that are held as stored texts. -/
def Writing.stored : Writing String String :=
  ⟨storedText ServiceInstance.codec, storedText ServiceBinding.codec⟩

namespace Tables.Sound

variable {tables : Tables}

/-- Every call keeps the constraints of the tables. -/
theorem answer
    (sound : tables.Sound)
    (call : Call) :
    (Tables.answer call tables).2.Sound := by
  cases call with
  | getInstance id =>
      cases present : tables.instanceRow? id <;> simpa [Tables.answer, present] using sound
  | getBinding id bindingId =>
      cases present : tables.bindingRow? id bindingId <;>
        simpa [Tables.answer, present] using sound
  | getAllBindings id =>
      cases present : tables.instanceRow? id <;> simpa [Tables.answer, present] using sound
  | addInstance id record =>
      cases present : tables.instanceRow? id with
      | none =>
          have inserted := sound.insertInstance present (storedText ServiceInstance.codec record)
          simpa [Tables.answer, insertInstance?, present] using inserted
      | some row =>
          simpa [Tables.answer, insertInstance?, present] using sound
  | deleteInstance id =>
      cases present : tables.instanceRow? id with
      | none =>
          simpa [Tables.answer, present] using sound
      | some row =>
          simpa [Tables.answer, present] using sound.deleteInstance row.number
  | addBinding id bindingId record =>
      cases present : tables.instanceRow? id with
      | none =>
          simpa [Tables.answer, present] using sound
      | some parent =>
          obtain ⟨inTable, _⟩ := sound.instanceRow?_eq_some_iff.mp present
          cases taken : (tables.bindingsOf parent.number).find? fun row => row.guid == bindingId with
          | none =>
              have inserted :=
                sound.insertBinding inTable taken (storedText ServiceBinding.codec record)
              simpa [Tables.answer, insertBinding?, present, taken] using inserted
          | some row =>
              simpa [Tables.answer, insertBinding?, present, taken] using sound
  | deleteBinding id bindingId =>
      cases present : tables.bindingRow? id bindingId with
      | none =>
          simpa [Tables.answer, present] using sound
      | some row =>
          simpa [Tables.answer, present] using sound.deleteBinding row.number

/-- The tables add an instance as their contents say. -/
theorem serves_addInstance
    (sound : tables.Sound)
    (id : String)
    (record : ServiceInstance) :
    Serves .stored .stored tables.contents (.addInstance id record)
      (Tables.answer (.addInstance id record) tables).1
      (Tables.answer (.addInstance id record) tables).2.contents := by
  cases present : tables.instanceRow? id with
  | some row =>
      have refusal : tables.contents.refusal? (.addInstance id record) =
          some (.duplicateInstance id) := by
        simp [Contents.refusal?, contents, present]
      simpa [Tables.answer, insertInstance?, present] using Serves.of_refusal refusal
  | none =>
      have accepted : tables.contents.refusal? (.addInstance id record) = none := by
        simp [Contents.refusal?, contents, present]
      simp only [Tables.answer, insertInstance?, present]
      rw [sound.contents_insertInstance present]
      exact .of_reply accepted rfl

/-- The tables find an instance as their contents say. -/
theorem serves_getInstance
    (id : String) :
    Serves .stored .stored tables.contents (.getInstance id)
      (Tables.answer (.getInstance id) tables).1
      (Tables.answer (.getInstance id) tables).2.contents := by
  cases present : tables.instanceRow? id with
  | none =>
      have refusal : tables.contents.refusal? (.getInstance id) = some (.instanceNotFound id) := by
        simp [Contents.refusal?, contents, present]
      simpa [Tables.answer, present] using Serves.of_refusal refusal
  | some row =>
      have accepted : tables.contents.refusal? (.getInstance id) = none := by
        simp [Contents.refusal?, contents, present]
      simp only [Tables.answer, present]
      exact .of_reply accepted
        ⟨row.data, by simp [contents, present], by simp only [Tables.record, Reading.stored]; rfl⟩

/-- The tables delete an instance as their contents say. -/
theorem serves_deleteInstance
    (sound : tables.Sound)
    (id : String) :
    Serves .stored .stored tables.contents (.deleteInstance id)
      (Tables.answer (.deleteInstance id) tables).1
      (Tables.answer (.deleteInstance id) tables).2.contents := by
  cases present : tables.instanceRow? id with
  | none =>
      have refusal : tables.contents.refusal? (.deleteInstance id) =
          some (.instanceNotFound id) := by
        simp [Contents.refusal?, contents, present]
      simpa [Tables.answer, present] using Serves.of_refusal refusal
  | some row =>
      have accepted : tables.contents.refusal? (.deleteInstance id) = none := by
        simp [Contents.refusal?, contents, present]
      obtain ⟨inTable, rfl⟩ := sound.instanceRow?_eq_some_iff.mp present
      simp only [Tables.answer, present]
      rw [sound.contents_deleteInstance inTable]
      exact .of_reply accepted rfl

/-- The tables add a binding as their contents say. -/
theorem serves_addBinding
    (sound : tables.Sound)
    (id bindingId : String)
    (record : ServiceBinding) :
    Serves .stored .stored tables.contents (.addBinding id bindingId record)
      (Tables.answer (.addBinding id bindingId record) tables).1
      (Tables.answer (.addBinding id bindingId record) tables).2.contents := by
  cases present : tables.instanceRow? id with
  | none =>
      have refusal : tables.contents.refusal? (.addBinding id bindingId record) =
          some (.parentMissing id) := by
        simp [Contents.refusal?, contents, present]
      simpa [Tables.answer, present] using Serves.of_refusal refusal
  | some parent =>
      cases taken : (tables.bindingsOf parent.number).find? fun row => row.guid == bindingId with
      | some row =>
          have refusal : tables.contents.refusal? (.addBinding id bindingId record) =
              some (.duplicateBinding id bindingId) := by
            simp [Contents.refusal?, contents, bindingRow?, present, taken]
          simpa [Tables.answer, insertBinding?, present, taken] using Serves.of_refusal refusal
      | none =>
          have accepted : tables.contents.refusal? (.addBinding id bindingId record) = none := by
            simp [Contents.refusal?, contents, bindingRow?, present, taken]
          obtain ⟨inTable, rfl⟩ := sound.instanceRow?_eq_some_iff.mp present
          simp only [Tables.answer, insertBinding?, present, taken]
          rw [sound.contents_insertBinding inTable taken]
          exact .of_reply accepted rfl

/-- The tables find a binding as their contents say. -/
theorem serves_getBinding
    (id bindingId : String) :
    Serves .stored .stored tables.contents (.getBinding id bindingId)
      (Tables.answer (.getBinding id bindingId) tables).1
      (Tables.answer (.getBinding id bindingId) tables).2.contents := by
  cases present : tables.bindingRow? id bindingId with
  | none =>
      have refusal : tables.contents.refusal? (.getBinding id bindingId) =
          some (.bindingNotFound id bindingId) := by
        simp [Contents.refusal?, contents, present]
      simpa [Tables.answer, present] using Serves.of_refusal refusal
  | some row =>
      have accepted : tables.contents.refusal? (.getBinding id bindingId) = none := by
        simp [Contents.refusal?, contents, present]
      simp only [Tables.answer, present]
      exact .of_reply accepted
        ⟨row.data, by simp [contents, present], by simp only [Tables.record, Reading.stored]; rfl⟩

/-- The bindings of an instance's row are those that the tables hold beneath its identifier. -/
theorem mem_bindingsOf_iff
    (sound : tables.Sound)
    {parent : InstanceRow}
    (inTable : parent ∈ tables.instances)
    {bindingId text : String} :
    (bindingId, text) ∈ (tables.bindingsOf parent.number).map (fun row => (row.guid, row.data)) ↔
      tables.contents.binding? parent.guid bindingId = some text := by
  rw [sound.binding?_eq_some_iff]
  constructor
  · intro member
    obtain ⟨row, own, same⟩ := List.mem_map.mp member
    obtain ⟨rfl, rfl⟩ := Prod.mk.inj same
    obtain ⟨rowInTable, owner⟩ := List.mem_filter.mp own
    have owner : row.owner = parent.number := by simpa using owner
    exact ⟨row, rowInTable, rfl, ⟨parent, inTable, rfl, owner.symm⟩, rfl⟩
  · rintro ⟨row, rowInTable, rfl, ⟨other, otherInTable, named, owner⟩, rfl⟩
    rw [List.inj_on_of_nodup_map sound.guids otherInTable inTable named] at owner
    have own : row ∈ tables.bindingsOf parent.number :=
      List.mem_filter.mpr ⟨rowInTable, by simp [owner]⟩
    exact List.mem_map.mpr ⟨row, own, rfl⟩

/-- The bindings of one owner have different identifiers in sound tables. -/
theorem nodup_bindingsOf
    (sound : tables.Sound)
    (owner : Nat) :
    ((tables.bindingsOf owner).map BindingRow.guid).Nodup := by
  apply List.Nodup.map_on
  · intro first member second too same
    obtain ⟨inTable, owned⟩ := List.mem_filter.mp member
    obtain ⟨alsoInTable, alsoOwned⟩ := List.mem_filter.mp too
    have owners : first.owner = second.owner :=
      (beq_iff_eq.mp owned).trans (beq_iff_eq.mp alsoOwned).symm
    exact List.inj_on_of_nodup_map sound.distinct inTable alsoInTable (by simp [owners, same])
  · exact (nodup_map_filter sound.bindingNumbers _).of_map

/-- The tables list bindings as their contents say. -/
theorem serves_getAllBindings
    (sound : tables.Sound)
    (id : String) :
    Serves .stored .stored tables.contents (.getAllBindings id)
      (Tables.answer (.getAllBindings id) tables).1
      (Tables.answer (.getAllBindings id) tables).2.contents := by
  cases present : tables.instanceRow? id with
  | none =>
      have refusal : tables.contents.refusal? (.getAllBindings id) = some (.parentMissing id) := by
        simp [Contents.refusal?, contents, present]
      simpa [Tables.answer, present] using Serves.of_refusal refusal
  | some parent =>
      have accepted : tables.contents.refusal? (.getAllBindings id) = none := by
        simp [Contents.refusal?, contents, present]
      obtain ⟨inTable, rfl⟩ := sound.instanceRow?_eq_some_iff.mp present
      simp only [Tables.answer, present]
      refine .of_reply accepted
        ⟨(tables.bindingsOf parent.number).map fun row => (row.guid, row.data), ?_, ?_, ?_⟩
      · rw [List.map_map]
        exact sound.nodup_bindingsOf parent.number
      · intro bindingId text
        exact sound.mem_bindingsOf_iff inTable
      · simp only [List.mapM_map, Tables.record, Reading.stored, Function.comp_def]
        rfl

/-- The tables delete a binding as their contents say. -/
theorem serves_deleteBinding
    (sound : tables.Sound)
    (id bindingId : String) :
    Serves .stored .stored tables.contents (.deleteBinding id bindingId)
      (Tables.answer (.deleteBinding id bindingId) tables).1
      (Tables.answer (.deleteBinding id bindingId) tables).2.contents := by
  cases present : tables.bindingRow? id bindingId with
  | none =>
      have refusal : tables.contents.refusal? (.deleteBinding id bindingId) =
          some (.bindingNotFound id bindingId) := by
        simp [Contents.refusal?, contents, present]
      simpa [Tables.answer, present] using Serves.of_refusal refusal
  | some row =>
      have accepted : tables.contents.refusal? (.deleteBinding id bindingId) = none := by
        simp [Contents.refusal?, contents, present]
      simp only [Tables.answer, present]
      rw [sound.contents_deleteBinding present]
      exact .of_reply accepted rfl

/-- The tables serve every call on what they hold. -/
theorem serves_answer
    (sound : tables.Sound)
    (call : Call) :
    Serves .stored .stored tables.contents call (Tables.answer call tables).1
      (Tables.answer call tables).2.contents := by
  cases call with
  | addInstance id record => exact sound.serves_addInstance id record
  | getInstance id => exact serves_getInstance id
  | deleteInstance id => exact sound.serves_deleteInstance id
  | addBinding id bindingId record => exact sound.serves_addBinding id bindingId record
  | getBinding id bindingId => exact serves_getBinding id bindingId
  | getAllBindings id => exact sound.serves_getAllBindings id
  | deleteBinding id bindingId => exact sound.serves_deleteBinding id bindingId

end Tables.Sound

/-- A relational store, in which any text may stand in the place of a record. -/
def Vault.relational : Vault where
  State := { tables : Tables // tables.Sound }
  answer call state :=
    ((Tables.answer call state.val).1,
      ⟨(Tables.answer call state.val).2, state.property.answer call⟩)
  InstanceRecord := String
  BindingRecord := String
  reading := .stored
  contents state := state.val.contents
  honest call state := (state.property.serves_answer call).honest

end GraphBroker.Store
