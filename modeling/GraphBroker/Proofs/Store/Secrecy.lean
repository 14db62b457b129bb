import GraphBroker.Proofs.Plan.Secrecy
import GraphBroker.Proofs.Store.Footprint

namespace GraphBroker

open Store Plan Json

/-!
# Stores that differ in a login

The payload of an instance may hold the login of an administrator, and the store holds
the payload.  Two stores in memory that differ in such logins alone turn the same calls
down and answer alike, but for the record of an instance that is found; and they still
differ in logins alone after every call.
-/

/-- Records of an instance that differ in the login alone. -/
structure ServiceInstance.Resembles (one other : ServiceInstance) : Prop where
  guid : one.guid = other.guid
  planId : one.planId = other.planId
  organization : one.organization = other.organization
  space : one.space = other.space
  service : one.service = other.service
  payload : SameButLogin one.payload other.payload

theorem ServiceInstance.Resembles.refl
    (record : ServiceInstance) :
    record.Resembles record :=
  ⟨rfl, rfl, rfl, rfl, rfl, .same _⟩

/-- Stores in memory whose records of instances differ in logins alone. -/
structure Store.Memory.Resembles (one other : Memory) : Prop where
  instances :
    ∀ id, Option.Rel ServiceInstance.Resembles (one.instance? id) (other.instance? id)
  bindings : ∀ id bindingId, one.binding? id bindingId = other.binding? id bindingId

namespace Store

/-- Outcomes that are the same, where the record of an instance may differ in the login. -/
def Call.Meet : (call : Call) → call.Outcome → call.Outcome → Prop
  | .getInstance _, one, other => Matches ServiceInstance.Resembles one other
  | _, one, other => one = other

/-- The same call on a store, or two that add records which differ in the login alone. -/
inductive TwoCalls where
  | same (call : Call)
  | adding (key : String) {one other : ServiceInstance} (resembles : one.Resembles other)

namespace TwoCalls

def first : TwoCalls → Call
  | .same call => call
  | @adding key one _ _ => .addInstance key one

def second : TwoCalls → Call
  | .same call => call
  | @adding key _ other _ => .addInstance key other

def Meet : (calls : TwoCalls) → calls.first.Outcome → calls.second.Outcome → Prop
  | .same call, one, other => call.Meet one other
  | .adding _ _, one, other => one = other

end TwoCalls

/-- What is recorded for an instance differs in the login alone after either of two calls. -/
theorem TwoCalls.rel_instanceAfter
    (calls : TwoCalls)
    (key : String)
    {held other : Option ServiceInstance}
    (same : Option.Rel ServiceInstance.Resembles held other) :
    Option.Rel ServiceInstance.Resembles (calls.first.instanceAfter key held)
      (calls.second.instanceAfter key other) := by
  cases calls with
  | adding added resembles =>
      simp only [first, second, Call.instanceAfter]
      split
      · exact .some resembles
      · exact same
  | same call =>
      cases call with
      | addInstance added record =>
          simp only [first, second, Call.instanceAfter]
          split
          · exact .some (.refl record)
          · exact same
      | deleteInstance deleted =>
          simp only [first, second, Call.instanceAfter]
          split
          · exact .none
          · exact same
      | getInstance _ | addBinding _ _ _ | getBinding _ _ | getAllBindings _ | deleteBinding _ _ =>
          exact same

/-- Two calls that differ in a login at most leave the same bindings. -/
theorem TwoCalls.bindingAfter_eq
    (calls : TwoCalls)
    (key bindingId : String)
    (held : Option ServiceBinding) :
    calls.first.bindingAfter key bindingId held = calls.second.bindingAfter key bindingId held := by
  cases calls with
  | same call => rfl
  | adding added resembles => rfl

namespace Memory

theorem Resembles.refl
    (memory : Memory) :
    memory.Resembles memory := by
  refine ⟨fun id => ?_, fun _ _ => rfl⟩
  cases memory.instance? id with
  | none => exact .none
  | some record => exact .some (.refl record)

section

variable {one other : Memory}

/-- An instance is recorded in neither store, or in both, and then differs in the login alone. -/
theorem Resembles.found
    (resembles : one.Resembles other)
    (id : String) :
    (one.instance? id = none ∧ other.instance? id = none) ∨
      ∃ record otherRecord,
        one.instance? id = some record ∧ other.instance? id = some otherRecord ∧
          record.Resembles otherRecord := by
  have same := resembles.instances id
  generalize one.instance? id = held at same ⊢
  generalize other.instance? id = otherHeld at same ⊢
  cases same with
  | none => exact Or.inl ⟨rfl, rfl⟩
  | some same => exact Or.inr ⟨_, _, rfl, rfl, same⟩

/-- Memories that differ in logins alone record the same instances. -/
theorem Resembles.missing_iff
    (resembles : one.Resembles other)
    (id : String) :
    one.instance? id = none ↔ other.instance? id = none := by
  rcases resembles.found id with ⟨here, there⟩ | ⟨record, otherRecord, here, there, same⟩
  · simp [here, there]
  · simp [here, there]

/-- Stores that differ in logins alone turn the same calls down. -/
theorem Resembles.refuses_iff
    (resembles : one.Resembles other)
    (calls : TwoCalls) :
    one.Refuses calls.first ↔ other.Refuses calls.second := by
  have missing := resembles.missing_iff
  have bindings := resembles.bindings
  cases calls with
  | adding key same =>
      exact not_congr (missing key)
  | same call =>
      cases call with
      | addInstance key record =>
          exact not_congr (missing key)
      | getInstance key | deleteInstance key | getAllBindings key =>
          exact missing key
      | addBinding key bindingId record =>
          simp only [TwoCalls.first, TwoCalls.second, Refuses, missing key, bindings]
      | getBinding key bindingId | deleteBinding key bindingId =>
          simp only [TwoCalls.first, TwoCalls.second, Refuses, bindings]

/-- What comes of a call tells no more of a login than a record does that it finds. -/
theorem Resembles.meet
    (resembles : one.Resembles other)
    (calls : TwoCalls) :
    calls.Meet (answer calls.first one).1 (answer calls.second other).1 := by
  have bindings := resembles.bindings
  -- Adding an instance succeeds or fails alike, whatever record is to be added.
  have adding (key : String) (record otherRecord : ServiceInstance) :
      (answer (.addInstance key record) one).1 = (answer (.addInstance key otherRecord) other).1 := by
    rw [outcome_addInstance, outcome_addInstance]
    rcases resembles.found key with ⟨here, there⟩ | ⟨_, _, here, there, same⟩
    · rw [here, there]
      rfl
    · rw [here, there]
      rfl
  cases calls with
  | adding key same =>
      exact adding key _ _
  | same call =>
      cases call with
      | addInstance key record =>
          exact adding key record record
      | getInstance key =>
          simp only [TwoCalls.Meet, Call.Meet, TwoCalls.first, TwoCalls.second]
          rw [outcome_getInstance, outcome_getInstance]
          rcases resembles.found key with ⟨here, there⟩ | ⟨_, _, here, there, same⟩
          · rw [here, there]
            exact .error _
          · rw [here, there]
            exact .ok same
      | deleteInstance key =>
          simp only [TwoCalls.Meet, Call.Meet, TwoCalls.first, TwoCalls.second]
          rw [outcome_deleteInstance, outcome_deleteInstance]
          rcases resembles.found key with ⟨here, there⟩ | ⟨_, _, here, there, same⟩
          · rw [here, there]
          · rw [here, there]
      | getAllBindings key =>
          exact outcome_getAllBindings (resembles.missing_iff key) (bindings key)
      | addBinding key bindingId record =>
          simp only [TwoCalls.Meet, Call.Meet, TwoCalls.first, TwoCalls.second]
          rw [outcome_addBinding, outcome_addBinding, bindings]
          rcases resembles.found key with ⟨here, there⟩ | ⟨_, _, here, there, same⟩
          · rw [here, there]
          · rw [here, there]
            cases other.binding? key bindingId with
            | none => rfl
            | some taken => rfl
      | getBinding key bindingId =>
          simp only [TwoCalls.Meet, Call.Meet, TwoCalls.first, TwoCalls.second]
          rw [outcome_getBinding, outcome_getBinding, bindings]
      | deleteBinding key bindingId =>
          simp only [TwoCalls.Meet, Call.Meet, TwoCalls.first, TwoCalls.second]
          rw [outcome_deleteBinding, outcome_deleteBinding, bindings]

/-- Stores that differ in logins alone still do after a call. -/
theorem Resembles.answer
    (resembles : one.Resembles other)
    (calls : TwoCalls) :
    (answer calls.first one).2.Resembles (answer calls.second other).2 := by
  have refuses := resembles.refuses_iff calls
  by_cases refused : one.Refuses calls.first
  · obtain ⟨_, failed⟩ := answer_eq_error_iff.mpr refused
    obtain ⟨_, otherFailed⟩ := answer_eq_error_iff.mpr (refuses.mp refused)
    rw [answer_unchanged_of_error failed, answer_unchanged_of_error otherFailed]
    exact resembles
  · have accepted := refused ∘ refuses.mpr
    refine ⟨fun id => ?_, fun id bindingId => ?_⟩
    · rw [instance?_answer refused, instance?_answer accepted]
      exact calls.rel_instanceAfter id (resembles.instances id)
    · rw [binding?_answer refused, binding?_answer accepted, calls.bindingAfter_eq,
        resembles.bindings]

end

end Memory

end Store

end GraphBroker
