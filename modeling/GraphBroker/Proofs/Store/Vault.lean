import GraphBroker.Proofs.Store.Contents

namespace GraphBroker.Store

/-!
# Stores whose records may be unreadable

What a store holds under an identifier need not be readable, and a look-up of it
then fails.  That is not the failure of a look-up that finds nothing.  This module
says what the broker may rely on in any store, whatever is in it and whichever of
its calls fail.
-/

/--
A call that fails or looks something up leaves everything as it is.  What is found
was held and could be read, and a look-up that finds nothing says so only where
nothing is held.  Deleting a binding takes away that binding and nothing else.
-/
def Honest (reading : Reading ι β) :
    (call : Call) → Contents ι β → call.Outcome → Contents ι β → Prop
  | .getInstance id, before, .ok record, after =>
      after = before ∧
        ∃ held, before.instance? id = some held ∧ reading.readInstance held = .ok record
  | .getInstance id, before, .error error, after =>
      after = before ∧ (error.isNotFound = true → before.instance? id = none)
  | .getBinding id bindingId, before, .ok record, after =>
      after = before ∧
        ∃ held, before.binding? id bindingId = some held ∧ reading.readBinding held = .ok record
  | .getBinding id bindingId, before, .error error, after =>
      after = before ∧ (error.isNotFound = true → before.binding? id bindingId = none)
  | .getAllBindings id, before, .ok _, after =>
      after = before ∧
        ∀ bindingId held, before.binding? id bindingId = some held →
          ∃ record, reading.readBinding held = .ok record
  | .deleteBinding id bindingId, before, .ok (), after =>
      before.binding? id bindingId ≠ none ∧ after = before.without id bindingId
  | .addInstance _ _, _, .ok (), _ | .deleteInstance _, _, .ok (), _
  | .addBinding _ _ _, _, .ok (), _ => True
  | .addInstance _ _, before, .error _, after | .deleteInstance _, before, .error _, after
  | .addBinding _ _ _, before, .error _, after | .getAllBindings _, before, .error _, after
  | .deleteBinding _ _, before, .error _, after => after = before

namespace Honest

variable {reading : Reading ι β} {before after : Contents ι β}

theorem unchanged_of_error
    {call : Call}
    {error : Error}
    (honest : Honest reading call before (.error error) after) :
    after = before := by
  cases call with
  | getInstance id | getBinding id bindingId =>
      exact honest.1
  | addInstance id record | deleteInstance id | addBinding id bindingId record
  | getAllBindings id | deleteBinding id bindingId =>
      exact honest

theorem unchanged_of_reads
    {call : Call}
    {outcome : call.Outcome}
    (reads : call.reads = true)
    (honest : Honest reading call before outcome after) :
    after = before := by
  cases outcome with
  | error error =>
      exact honest.unchanged_of_error
  | ok reply =>
      cases call with
      | getInstance id | getBinding id bindingId | getAllBindings id =>
          exact honest.1
      | addInstance id record | deleteInstance id | addBinding id bindingId record
      | deleteBinding id bindingId =>
          cases reads

end Honest

/-- The record that a call asks for is held, but cannot be read. -/
def Reading.Fails (reading : Reading ι β) (contents : Contents ι β) : Call → Prop
  | .getInstance id =>
      ∃ held corrupt,
        contents.instance? id = some held ∧ reading.readInstance held = .error corrupt
  | .getBinding id bindingId =>
      ∃ held corrupt,
        contents.binding? id bindingId = some held ∧ reading.readBinding held = .error corrupt
  | _ => False

/-- A store with anything in it, any call of which may fail. -/
structure Vault where
  State : Type
  answer : (call : Call) → State → call.Outcome × State
  InstanceRecord : Type
  BindingRecord : Type
  reading : Reading InstanceRecord BindingRecord
  contents : State → Contents InstanceRecord BindingRecord
  honest :
    ∀ call state,
      Honest reading call (contents state) (answer call state).1 (contents (answer call state).2)

/-- Whoever serves calls on what it holds is honest about it. -/
theorem Serves.honest
    {reading : Reading ι β}
    {writing : Writing ι β}
    {before after : Contents ι β}
    {call : Call}
    {outcome : call.Outcome}
    (serves : Serves reading writing before call outcome after) :
    Honest reading call before outcome after := by
  cases refusal : before.refusal? call with
  | some error =>
      obtain ⟨rfl, rfl⟩ := serves.refused refusal
      cases call with
      | getInstance id =>
          refine ⟨rfl, fun _ => ?_⟩
          cases present : after.instance? id <;> simp_all [Contents.refusal?]
      | getBinding id bindingId =>
          refine ⟨rfl, fun _ => ?_⟩
          cases present : after.binding? id bindingId <;> simp_all [Contents.refusal?]
      | addInstance id record | deleteInstance id | addBinding id bindingId record
      | getAllBindings id | deleteBinding id bindingId =>
          rfl
  | none =>
      obtain ⟨replies, rfl⟩ := serves.accepted refusal
      cases call with
      | addInstance id record | deleteInstance id | addBinding id bindingId record =>
          obtain rfl : outcome = .ok () := replies
          trivial
      | deleteBinding id bindingId =>
          obtain rfl : outcome = .ok () := replies
          refine ⟨?_, rfl⟩
          intro absent
          simp [Contents.refusal?, absent] at refusal
      | getInstance id =>
          obtain ⟨held, present, rfl⟩ := replies
          cases read : reading.readInstance held with
          | ok record =>
              exact ⟨rfl, held, present, read⟩
          | error corrupt =>
              exact ⟨rfl, fun impossible => Bool.noConfusion impossible⟩
      | getBinding id bindingId =>
          obtain ⟨held, present, rfl⟩ := replies
          cases read : reading.readBinding held with
          | ok record =>
              exact ⟨rfl, held, present, read⟩
          | error corrupt =>
              exact ⟨rfl, fun impossible => Bool.noConfusion impossible⟩
      | getAllBindings id =>
          obtain ⟨listed, _, complete, answered⟩ := replies
          cases outcome with
          | error error =>
              rfl
          | ok found =>
              refine ⟨rfl, ?_⟩
              intro bindingId held present
              have member := (complete bindingId held).mpr present
              obtain ⟨record, read⟩ := ok_of_mapM answered.symm member
              cases readable : reading.readBinding held with
              | ok record =>
                  exact ⟨record, rfl⟩
              | error corrupt =>
                  rw [readable] at read
                  cases read

namespace Vault

/-- A store in memory. -/
def memory : Vault where
  State := Memory
  answer := Memory.answer
  InstanceRecord := ServiceInstance
  BindingRecord := ServiceBinding
  reading := .exact
  contents := Memory.contents
  honest call memory := (Memory.serves_answer call memory).honest

/-- Another store, any call of which fails when a script says so, though not as if nothing were found. -/
def failing {φ : Type}
    (vault : Vault)
    (fault : Call → φ → Option { error : Error // error.isNotFound = false } × φ) :
    Vault where
  State := vault.State × φ
  answer call := fun (state, script) =>
    match fault call script with
    | (some error, script) => (.error error, (state, script))
    | (none, script) => ((vault.answer call state).1, ((vault.answer call state).2, script))
  InstanceRecord := vault.InstanceRecord
  BindingRecord := vault.BindingRecord
  reading := vault.reading
  contents state := vault.contents state.1
  honest call := fun (state, script) => by
    cases outcome : fault call script with
    | mk error script =>
        cases error with
        | none =>
            simp only [outcome]
            exact vault.honest call state
        | some error =>
            obtain ⟨error, found⟩ := error
            simp only [outcome]
            cases call with
            | getInstance id | getBinding id bindingId =>
                simp [Honest, found]
            | addInstance id record | deleteInstance id | addBinding id bindingId record
            | getAllBindings id | deleteBinding id bindingId =>
                rfl

end Vault

end GraphBroker.Store
