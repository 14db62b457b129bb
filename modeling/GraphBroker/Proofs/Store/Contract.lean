import GraphBroker.Proofs.Conversation
import GraphBroker.Proofs.Keyed
import GraphBroker.Store.Memory

namespace GraphBroker.Store

/-!
# What a store promises

A store in memory says how records come and go.  Any other store may in addition
fail now and then; a call that fails changes nothing.  This module states both
promises in terms of what is recorded under each identifier, so that proofs about
the broker need not look into a store.
-/

/-- Conversations with a store. -/
def storage : Protocol :=
  ⟨Call, Call.Outcome⟩

/-- A call on a store with its outcome. -/
abbrev asked (call : Call) (outcome : call.Outcome) : Exchange storage :=
  ⟨call, outcome⟩

namespace Call

/-- Calls that only look something up. -/
def reads : Call → Bool
  | .getInstance _ | .getBinding _ _ | .getAllBindings _ => true
  | .addInstance _ _ | .deleteInstance _ | .addBinding _ _ _ | .deleteBinding _ _ => false

/-- The call asks for a list of records. -/
def lists : Call → Bool
  | .getAllBindings _ => true
  | _ => false

/-- Outcomes agree if they are the same; the bindings of an instance may come in any order. -/
def Agrees : (call : Call) → call.Outcome → call.Outcome → Prop
  | .getAllBindings _, .ok found, .ok held => found.Perm held
  | _, outcome, expected => outcome = expected

/-- What is recorded for an instance after a call that succeeds. -/
def instanceAfter (id : String) (held : Option ServiceInstance) : Call → Option ServiceInstance
  | .addInstance other record => if id = other then some record else held
  | .deleteInstance other => if id = other then none else held
  | _ => held

/-- What is recorded for a binding after a call that succeeds. -/
def bindingAfter
    (id bindingId : String)
    (held : Option ServiceBinding) :
    Call → Option ServiceBinding
  | .deleteInstance other => if id = other then none else held
  | .addBinding other otherBinding record =>
      if id = other ∧ bindingId = otherBinding then some record else held
  | .deleteBinding other otherBinding =>
      if id = other ∧ bindingId = otherBinding then none else held
  | _ => held

/-- Every outcome agrees with itself. -/
theorem agrees_refl
    (call : Call)
    (outcome : call.Outcome) :
    call.Agrees outcome outcome := by
  cases call with
  | getAllBindings id =>
      cases outcome with
      | ok held => exact List.Perm.refl held
      | error error => rfl
  | _ => rfl

/-- Only the same error agrees with an error. -/
theorem Agrees.eq_of_error
    {call : Call}
    {error : Error}
    {expected : call.Outcome}
    (agrees : call.Agrees (.error error) expected) :
    expected = .error error := by
  cases call <;> exact Eq.symm agrees

/-- Where no list is asked for, outcomes agree only if they are the same. -/
theorem Agrees.eq_of_single
    {call : Call}
    {outcome expected : call.Outcome}
    (agrees : call.Agrees outcome expected)
    (single : call.lists = false) :
    outcome = expected := by
  cases call with
  | getAllBindings id =>
      cases single
  | _ =>
      exact agrees

/-- What agrees with a reply is a reply too. -/
theorem Agrees.ok_of_ok
    {call : Call}
    {reply : call.Reply}
    {expected : call.Outcome}
    (agrees : call.Agrees (.ok reply) expected) :
    ∃ held, expected = .ok held := by
  cases call with
  | getAllBindings id =>
      cases expected with
      | ok held => exact ⟨held, rfl⟩
      | error error => cases agrees
  | _ => exact ⟨reply, Eq.symm agrees⟩

end Call

namespace Memory

/-- The record of an instance. -/
def instance? (memory : Memory) (id : String) : Option ServiceInstance :=
  (memory.instances.find? id).map Held.record

/-- A call that a store in memory turns down. -/
def Refuses (memory : Memory) : Call → Prop
  | .addInstance id _ => memory.instance? id ≠ none
  | .getInstance id | .deleteInstance id | .getAllBindings id => memory.instance? id = none
  | .addBinding id bindingId _ =>
      memory.instance? id = none ∨ memory.binding? id bindingId ≠ none
  | .getBinding id bindingId | .deleteBinding id bindingId =>
      memory.binding? id bindingId = none

@[simp]
theorem instance?_empty
    (id : String) :
    empty.instance? id = none :=
  rfl

@[simp]
theorem binding?_empty
    (id bindingId : String) :
    empty.binding? id bindingId = none :=
  rfl

/-- The record of an instance is the one held with its bindings. -/
theorem instance?_of_held
    {memory : Memory}
    {id : String}
    {held : Held}
    (found : memory.instances.find? id = some held) :
    memory.instance? id = some held.record := by
  simp [instance?, found]

/-- The bindings of an instance are those held with its record. -/
theorem binding?_of_held
    {memory : Memory}
    {id : String}
    {held : Held}
    (found : memory.instances.find? id = some held)
    (bindingId : String) :
    memory.binding? id bindingId = held.bindings.find? bindingId := by
  simp [binding?, found]

/-- An instance that is not held has no bindings. -/
theorem binding?_of_absent
    {memory : Memory}
    {id : String}
    (absent : memory.instances.find? id = none)
    (bindingId : String) :
    memory.binding? id bindingId = none := by
  simp [binding?, absent]

/-- An instance without a record has no bindings. -/
theorem binding?_of_missing
    {memory : Memory}
    {id : String}
    (missing : memory.instance? id = none)
    (bindingId : String) :
    memory.binding? id bindingId = none := by
  cases present : memory.instances.find? id with
  | none =>
      exact binding?_of_absent present bindingId
  | some held =>
      rw [instance?_of_held present] at missing
      cases missing

/-- A store in memory fails on the calls that it turns down, and on no other. -/
theorem answer_eq_error_iff
    {memory : Memory}
    {call : Call} :
    (∃ error, (answer call memory).1 = .error error) ↔ memory.Refuses call := by
  cases call with
  | addInstance id record | getInstance id | deleteInstance id | getAllBindings id =>
      cases present : memory.instances.find? id with
      | none => simp [answer, Refuses, present, instance?]
      | some held => simp [answer, Refuses, present, instance?]
  | addBinding id bindingId record =>
      cases present : memory.instances.find? id with
      | none => simp [answer, Refuses, present, instance?]
      | some held =>
          cases taken : held.bindings.find? bindingId with
          | none => simp [answer, Refuses, present, instance?, binding?, taken]
          | some other => simp [answer, Refuses, present, instance?, binding?, taken]
  | getBinding id bindingId =>
      cases found : memory.binding? id bindingId with
      | none => simp [answer, Refuses, found]
      | some record => simp [answer, Refuses, found]
  | deleteBinding id bindingId =>
      cases present : memory.instances.find? id with
      | none => simp [answer, Refuses, present, binding?]
      | some held =>
          cases found : held.bindings.find? bindingId with
          | none => simp [answer, Refuses, present, binding?, found]
          | some record => simp [answer, Refuses, present, binding?, found]

/-- A call that fails leaves the memory as it was. -/
theorem answer_unchanged_of_error
    {memory : Memory}
    {call : Call}
    {error : Error}
    (failed : (answer call memory).1 = .error error) :
    (answer call memory).2 = memory := by
  cases call with
  | addInstance id record | getInstance id | deleteInstance id | getAllBindings id =>
      cases present : memory.instances.find? id with
      | none => simp_all [answer]
      | some held => simp_all [answer]
  | addBinding id bindingId record | deleteBinding id bindingId =>
      cases present : memory.instances.find? id with
      | none => simp_all [answer]
      | some held =>
          cases found : held.bindings.find? bindingId with
          | none => simp_all [answer]
          | some record => simp_all [answer]
  | getBinding id bindingId =>
      cases found : memory.binding? id bindingId with
      | none => simp [answer, found]
      | some record => simp [answer, found]

/-- A call that only reads leaves the memory as it was. -/
theorem answer_unchanged_of_reads
    {memory : Memory}
    {call : Call}
    (reads : call.reads = true) :
    (answer call memory).2 = memory := by
  cases call with
  | getInstance id | getAllBindings id =>
      cases present : memory.instances.find? id with
      | none => simp [answer, present]
      | some held => simp [answer, present]
  | getBinding id bindingId =>
      cases found : memory.binding? id bindingId with
      | none => simp [answer, found]
      | some record => simp [answer, found]
  | addInstance id record | deleteInstance id | addBinding id bindingId record
  | deleteBinding id bindingId =>
      cases reads

/-- What is recorded for an instance once a store in memory has carried out a call. -/
theorem instance?_answer
    {memory : Memory}
    {call : Call}
    (accepted : ¬ memory.Refuses call)
    (id : String) :
    (answer call memory).2.instance? id = call.instanceAfter id (memory.instance? id) := by
  cases call with
  | getInstance _ | getAllBindings _ | getBinding _ _ =>
      rw [answer_unchanged_of_reads rfl]
      rfl
  | addInstance other record =>
      cases present : memory.instances.find? other with
      | none =>
          simp only [answer, present, instance?, Keyed.find?_insert, Call.instanceAfter]
          split <;> rfl
      | some held => simp [Refuses, instance?, present] at accepted
  | deleteInstance other =>
      cases present : memory.instances.find? other with
      | none => simp [Refuses, instance?, present] at accepted
      | some held =>
          simp only [answer, present, instance?, Keyed.find?_erase, Call.instanceAfter]
          split <;> rfl
  | addBinding other bindingId record =>
      cases present : memory.instances.find? other with
      | none => simp [Refuses, instance?, present] at accepted
      | some held =>
          cases taken : held.bindings.find? bindingId with
          | some binding => simp [Refuses, binding?, present, taken] at accepted
          | none =>
              simp only [answer, present, taken, instance?, Keyed.find?_insert,
                Call.instanceAfter]
              split
              · next same => simp [same, present]
              · rfl
  | deleteBinding other bindingId =>
      cases present : memory.instances.find? other with
      | none => simp [Refuses, binding?, present] at accepted
      | some held =>
          cases found : held.bindings.find? bindingId with
          | none => simp [Refuses, binding?, present, found] at accepted
          | some binding =>
              simp only [answer, present, found, instance?, Keyed.find?_insert,
                Call.instanceAfter]
              split
              · next same => simp [same, present]
              · rfl

/-- What an accepted call makes of the record of each binding. -/
theorem binding?_answer
    {memory : Memory}
    {call : Call}
    (accepted : ¬ memory.Refuses call)
    (id bindingId : String) :
    (answer call memory).2.binding? id bindingId =
      call.bindingAfter id bindingId (memory.binding? id bindingId) := by
  cases call with
  | getInstance _ | getAllBindings _ | getBinding _ _ =>
      rw [answer_unchanged_of_reads rfl]
      rfl
  | addInstance other record =>
      cases present : memory.instances.find? other with
      | none =>
          by_cases same : id = other
          · simp [answer, present, binding?, Keyed.find?_insert, Call.bindingAfter, same]
          · simp [answer, present, binding?, Keyed.find?_insert, Call.bindingAfter, same]
      | some held => simp [Refuses, instance?, present] at accepted
  | deleteInstance other =>
      cases present : memory.instances.find? other with
      | none => simp [Refuses, instance?, present] at accepted
      | some held =>
          by_cases same : id = other
          · simp [answer, present, binding?, Keyed.find?_erase, Call.bindingAfter, same]
          · simp [answer, present, binding?, Keyed.find?_erase, Call.bindingAfter, same]
  | addBinding other otherBinding record =>
      cases present : memory.instances.find? other with
      | none => simp [Refuses, instance?, present] at accepted
      | some held =>
          cases taken : held.bindings.find? otherBinding with
          | some binding => simp [Refuses, binding?, present, taken] at accepted
          | none =>
              by_cases same : id = other
              · simp [answer, present, taken, binding?, Keyed.find?_insert, Call.bindingAfter,
                  same]
              · simp [answer, present, taken, binding?, Keyed.find?_insert, Call.bindingAfter,
                  same]
  | deleteBinding other otherBinding =>
      cases present : memory.instances.find? other with
      | none => simp [Refuses, binding?, present] at accepted
      | some held =>
          cases found : held.bindings.find? otherBinding with
          | none => simp [Refuses, binding?, present, found] at accepted
          | some binding =>
              by_cases same : id = other
              · simp [answer, present, found, binding?, Keyed.find?_insert, Keyed.find?_erase,
                  Call.bindingAfter, same]
              · simp [answer, present, found, binding?, Keyed.find?_insert, Call.bindingAfter,
                  same]

/-- A record found for an instance is the one in the memory. -/
theorem instance?_of_answer
    {memory : Memory}
    {id : String}
    {record : ServiceInstance}
    (found : (answer (.getInstance id) memory).1 = .ok record) :
    memory.instance? id = some record := by
  cases present : memory.instances.find? id with
  | none => simp [answer, present] at found
  | some held =>
      simp only [answer, present] at found
      cases found
      exact instance?_of_held present

/-- A record found for a binding is the one in the memory. -/
theorem binding?_of_answer
    {memory : Memory}
    {id bindingId : String}
    {binding : ServiceBinding}
    (found : (answer (.getBinding id bindingId) memory).1 = .ok binding) :
    memory.binding? id bindingId = some binding := by
  cases present : memory.binding? id bindingId with
  | none => simp [answer, present] at found
  | some record =>
      simp only [answer, present] at found
      cases found
      rfl

/-- The bindings listed for an instance are all those in the memory, and no others. -/
theorem mem_of_answer
    {memory : Memory}
    {id : String}
    {bindings : List ServiceBinding}
    (listed : (answer (.getAllBindings id) memory).1 = .ok bindings)
    {binding : ServiceBinding} :
    binding ∈ bindings ↔ ∃ bindingId, memory.binding? id bindingId = some binding := by
  cases present : memory.instances.find? id with
  | none => simp [answer, present] at listed
  | some held =>
      simp only [answer, present] at listed
      cases listed
      simp only [Keyed.mem_values_iff, binding?_of_held present]

end Memory

/-! ## Stores that may fail -/

/-- A call is answered as a store in memory answers it. -/
def Exact (call : Call) (before : Memory) (outcome : call.Outcome) (after : Memory) : Prop :=
  Memory.answer call before = (outcome, after)

/-- A call is answered as a store in memory answers it, or it fails and changes nothing. -/
inductive Allows (call : Call) (before : Memory) : call.Outcome → Memory → Prop where
  | answers {outcome : call.Outcome}
      (agrees : call.Agrees outcome (Memory.answer call before).1) :
      Allows call before outcome (Memory.answer call before).2
  | fails (error : Error) :
      Allows call before (.error error) before

namespace Exact

variable {before after : Memory}

/-- An exact answer is one that the contract allows. -/
theorem allows
    {call : Call}
    {outcome : call.Outcome}
    (exact : Exact call before outcome after) :
    Allows call before outcome after := by
  have answered := exact
  unfold Exact at answered
  have result := congrArg Prod.fst answered
  have records := congrArg Prod.snd answered
  simp only at result records
  subst result
  subst records
  exact .answers (call.agrees_refl _)

/-- An exact answer is an error only where the memory refuses the call. -/
theorem refuses_of_error
    {call : Call}
    {error : Error}
    (exact : Exact call before (.error error) after) :
    before.Refuses call :=
  Memory.answer_eq_error_iff.mp ⟨error, congrArg Prod.fst exact⟩

/-- A store in memory that does not find a record says so. -/
theorem isNotFound_of_reads
    {call : Call}
    {error : Error}
    (reads : call.reads = true)
    (single : call.lists = false)
    (exact : Exact call before (.error error) after) :
    error.isNotFound = true := by
  unfold Exact at exact
  cases call with
  | getAllBindings id =>
      cases single
  | getInstance id =>
      cases present : before.instances.find? id with
      | none =>
          simp only [Memory.answer, present] at exact
          cases exact
          rfl
      | some held =>
          simp only [Memory.answer, present] at exact
          cases exact
  | getBinding id bindingId =>
      cases found : before.binding? id bindingId with
      | none =>
          simp only [Memory.answer, found] at exact
          cases exact
          rfl
      | some held =>
          simp only [Memory.answer, found] at exact
          cases exact
  | addInstance id record | deleteInstance id | addBinding id bindingId record
  | deleteBinding id bindingId =>
      cases reads

end Exact

namespace Allows

variable {before after : Memory}

/-- After an error the records are as they were. -/
theorem unchanged_of_error
    {call : Call}
    {error : Error}
    (allowed : Allows call before (.error error) after) :
    after = before := by
  cases allowed with
  | answers agrees => exact Memory.answer_unchanged_of_error agrees.eq_of_error
  | fails => rfl

/-- After a call that only reads the records are as they were. -/
theorem unchanged_of_reads
    {call : Call}
    {outcome : call.Outcome}
    (reads : call.reads = true)
    (allowed : Allows call before outcome after) :
    after = before := by
  cases allowed with
  | answers agrees => exact Memory.answer_unchanged_of_reads reads
  | fails => rfl

/-- A call that succeeds is not one that a store in memory turns down. -/
theorem accepted_of_ok
    {call : Call}
    {reply : call.Reply}
    (allowed : Allows call before (.ok reply) after) :
    ¬ before.Refuses call ∧ after = (Memory.answer call before).2 := by
  cases allowed with
  | answers agrees =>
      refine ⟨?_, rfl⟩
      intro refused
      obtain ⟨error, failed⟩ := Memory.answer_eq_error_iff.mpr refused
      obtain ⟨held, succeeded⟩ := agrees.ok_of_ok
      rw [failed] at succeeded
      cases succeeded

/-- What is recorded for an instance after a call that succeeds. -/
theorem instance?_of_ok
    {call : Call}
    {reply : call.Reply}
    (allowed : Allows call before (.ok reply) after)
    (id : String) :
    after.instance? id = call.instanceAfter id (before.instance? id) := by
  obtain ⟨accepted, rfl⟩ := allowed.accepted_of_ok
  exact Memory.instance?_answer accepted id

/-- What a call that succeeded made of the record of each binding. -/
theorem binding?_of_ok
    {call : Call}
    {reply : call.Reply}
    (allowed : Allows call before (.ok reply) after)
    (id bindingId : String) :
    after.binding? id bindingId =
      call.bindingAfter id bindingId (before.binding? id bindingId) := by
  obtain ⟨accepted, rfl⟩ := allowed.accepted_of_ok
  exact Memory.binding?_answer accepted id bindingId

/-- Only the record of an unknown instance can be added. -/
theorem absent_of_added_instance
    {id : String}
    {record : ServiceInstance}
    {reply : (Call.addInstance id record).Reply}
    (allowed : Allows (.addInstance id record) before (.ok reply) after) :
    before.instance? id = none :=
  Classical.not_not.mp allowed.accepted_of_ok.1

/-- Only the record of an unknown binding can be added. -/
theorem unbound_of_added_binding
    {id bindingId : String}
    {record : ServiceBinding}
    {reply : (Call.addBinding id bindingId record).Reply}
    (allowed : Allows (.addBinding id bindingId record) before (.ok reply) after) :
    before.binding? id bindingId = none :=
  Classical.not_not.mp (not_or.mp allowed.accepted_of_ok.1).2

/-- After an addition an instance is the one added or was there before. -/
theorem instance_of_added
    {id other : String}
    {record found : ServiceInstance}
    {reply : (Call.addInstance id record).Reply}
    (allowed : Allows (.addInstance id record) before (.ok reply) after)
    (present : after.instance? other = some found) :
    (other = id ∧ found = record) ∨ before.instance? other = some found := by
  rw [allowed.instance?_of_ok] at present
  by_cases same : other = id
  · simp only [Call.instanceAfter, same, if_true, Option.some.injEq] at present
    exact Or.inl ⟨same, present.symm⟩
  · simp only [Call.instanceAfter, same, if_false] at present
    exact Or.inr present

/-- After a deletion an instance is another one that was there before. -/
theorem instance_of_erased
    {id other : String}
    {found : ServiceInstance}
    {reply : (Call.deleteInstance id).Reply}
    (allowed : Allows (.deleteInstance id) before (.ok reply) after)
    (present : after.instance? other = some found) :
    other ≠ id ∧ before.instance? other = some found := by
  rw [allowed.instance?_of_ok] at present
  by_cases same : other = id
  · simp [Call.instanceAfter, same] at present
  · simp only [Call.instanceAfter, same, if_false] at present
    exact ⟨same, present⟩

/-- A binding that is recorded after its instance could be deleted is under another. -/
theorem binding_of_erased_instance
    {id other bindingId : String}
    {found : ServiceBinding}
    {reply : (Call.deleteInstance id).Reply}
    (allowed : Allows (.deleteInstance id) before (.ok reply) after)
    (present : after.binding? other bindingId = some found) :
    other ≠ id ∧ before.binding? other bindingId = some found := by
  rw [allowed.binding?_of_ok] at present
  by_cases same : other = id
  · simp [Call.bindingAfter, same] at present
  · simp only [Call.bindingAfter, same, if_false] at present
    exact ⟨same, present⟩

/-- After an addition a binding is the one added or was there before. -/
theorem binding_of_added
    {id bindingId other otherBinding : String}
    {record found : ServiceBinding}
    {reply : (Call.addBinding id bindingId record).Reply}
    (allowed : Allows (.addBinding id bindingId record) before (.ok reply) after)
    (present : after.binding? other otherBinding = some found) :
    ((other = id ∧ otherBinding = bindingId) ∧ found = record) ∨
      before.binding? other otherBinding = some found := by
  rw [allowed.binding?_of_ok] at present
  by_cases same : other = id ∧ otherBinding = bindingId
  · simp only [Call.bindingAfter, same, and_self, if_true, Option.some.injEq] at present
    exact Or.inl ⟨same, present.symm⟩
  · simp only [Call.bindingAfter, same, if_false] at present
    exact Or.inr present

/-- After a deletion a binding is another one that was there before. -/
theorem binding_of_erased
    {id bindingId other otherBinding : String}
    {found : ServiceBinding}
    {reply : (Call.deleteBinding id bindingId).Reply}
    (allowed : Allows (.deleteBinding id bindingId) before (.ok reply) after)
    (present : after.binding? other otherBinding = some found) :
    ¬ (other = id ∧ otherBinding = bindingId) ∧
      before.binding? other otherBinding = some found := by
  rw [allowed.binding?_of_ok] at present
  by_cases same : other = id ∧ otherBinding = bindingId
  · simp [Call.bindingAfter, same] at present
  · simp only [Call.bindingAfter, same, if_false] at present
    exact ⟨same, present⟩

/-- A record found for an instance is the one kept for it. -/
theorem found_instance
    {id : String}
    {record : ServiceInstance}
    (allowed : Allows (.getInstance id) before (.ok record) after) :
    before.instance? id = some record := by
  cases allowed with
  | answers agrees => exact Memory.instance?_of_answer (Eq.symm agrees)

/-- A record found for a binding is the one kept for it. -/
theorem found_binding
    {id bindingId : String}
    {binding : ServiceBinding}
    (allowed : Allows (.getBinding id bindingId) before (.ok binding) after) :
    before.binding? id bindingId = some binding := by
  cases allowed with
  | answers agrees => exact Memory.binding?_of_answer (Eq.symm agrees)

/-- The bindings listed for an instance are all those kept for it, and no others. -/
theorem listed_bindings
    {id : String}
    {bindings : List ServiceBinding}
    (allowed : Allows (.getAllBindings id) before (.ok bindings) after)
    {binding : ServiceBinding} :
    binding ∈ bindings ↔ ∃ bindingId, before.binding? id bindingId = some binding := by
  cases allowed with
  | answers agrees =>
      obtain ⟨held, listed⟩ := agrees.ok_of_ok
      rw [listed] at agrees
      exact (List.Perm.mem_iff agrees).trans (Memory.mem_of_answer listed)

end Allows

/-- The record that a call asks for is on record, and the reply is that record. -/
@[reducible]
def Memory.Holds (memory : Memory) : (call : Call) → call.Reply → Prop
  | .getInstance id, record => memory.instance? id = some record
  | .getBinding id bindingId, record => memory.binding? id bindingId = some record
  | _, _ => True

/-- A record that is found is on record. -/
theorem Allows.found
    {call : Call}
    {reply : call.Reply}
    {before after : Memory}
    (allowed : Allows call before (.ok reply) after) :
    before.Holds call reply := by
  cases call with
  | getInstance id =>
      exact allowed.found_instance
  | getBinding id bindingId =>
      exact allowed.found_binding
  | _ =>
      trivial

/-- A call that looks something up leaves the records as they are to the calls after it. -/
theorem leads_of_reads
    {law : (call : Call) → Memory → call.Outcome → Memory → Prop}
    (allowed :
      ∀ {call before outcome after},
        law call before outcome after →
        Allows call before outcome after)
    {call : Call}
    {outcome : call.Outcome}
    {rest : List (Exchange storage)}
    {before after : Memory}
    (reads : call.reads = true)
    (leads : Leads (P := storage) law before (asked call outcome :: rest) after) :
    law call before outcome before ∧ Leads (P := storage) law before rest after := by
  obtain ⟨middle, looked, later⟩ := leads
  obtain rfl := (allowed looked).unchanged_of_reads reads
  exact ⟨looked, later⟩

/-- A call that looks something up is answered as a store in memory answers it; others may fail. -/
structure Faithful
    (call : Call)
    (before : Memory)
    (outcome : call.Outcome)
    (after : Memory) :
    Prop where
  allows : Allows call before outcome after
  looked : call.reads = true → call.Agrees outcome (Memory.answer call before).1

namespace Faithful

variable {before after : Memory}

/-- An exact answer is a faithful one. -/
theorem of_exact
    {call : Call}
    {outcome : call.Outcome}
    (exact : Exact call before outcome after) :
    Faithful call before outcome after where
  allows := exact.allows
  looked _ := by
    rw [show (Memory.answer call before).1 = outcome from congrArg Prod.fst exact]
    exact call.agrees_refl outcome

/-- A faithful answer to a look-up of one record is exact. -/
theorem exact
    {call : Call}
    {outcome : call.Outcome}
    (faithful : Faithful call before outcome after)
    (reads : call.reads = true)
    (single : call.lists = false) :
    Exact call before outcome after := by
  have same := (faithful.looked reads).eq_of_single single
  have unchanged := faithful.allows.unchanged_of_reads reads
  exact Prod.ext same.symm ((Memory.answer_unchanged_of_reads reads).trans unchanged.symm)

/-- An instance on record is found. -/
theorem finds_instance
    {id : String}
    {record : ServiceInstance}
    {outcome : (Call.getInstance id).Outcome}
    (looked : Faithful (.getInstance id) before outcome after)
    (recorded : before.instance? id = some record) :
    outcome = .ok record := by
  cases outcome with
  | error error =>
      have absent : before.instance? id = none := (looked.exact rfl rfl).refuses_of_error
      rw [recorded] at absent
      cases absent
  | ok found =>
      exact congrArg Except.ok (Option.some.inj (looked.allows.found_instance.symm.trans recorded))

/-- An instance on record is found, and the calls after that find the records as they are. -/
theorem found_first
    {id : String}
    {record : ServiceInstance}
    {outcome : (Call.getInstance id).Outcome}
    {rest : List (Exchange storage)}
    (leads :
      Leads (P := storage) Faithful before (asked (.getInstance id) outcome :: rest) after)
    (recorded : before.instance? id = some record) :
    outcome = .ok record ∧ Leads (P := storage) Faithful before rest after := by
  obtain ⟨looked, later⟩ := leads_of_reads Faithful.allows rfl leads
  exact ⟨looked.finds_instance recorded, later⟩

/-- A binding on record is found, and one that is not is reported not to be there. -/
theorem found_next
    {id bindingId : String}
    {outcome : (Call.getBinding id bindingId).Outcome}
    {rest : List (Exchange storage)}
    (leads :
      Leads (P := storage) Faithful before (asked (.getBinding id bindingId) outcome :: rest)
        after) :
    (∀ binding, before.binding? id bindingId = some binding → outcome = .ok binding) ∧
      (before.binding? id bindingId = none →
        ∃ error : Error, outcome = .error error ∧ error.isNotFound = true) ∧
      Leads (P := storage) Faithful before rest after := by
  obtain ⟨looked, later⟩ := leads_of_reads Faithful.allows rfl leads
  cases outcome with
  | error error =>
      have exact := looked.exact rfl rfl
      have missing : before.binding? id bindingId = none := exact.refuses_of_error
      simp [missing, exact.isNotFound_of_reads rfl rfl, later]
  | ok found =>
      have held := looked.allows.found_binding
      refine ⟨?_, by simp [held], later⟩
      intro binding recorded
      exact congrArg Except.ok (Option.some.inj (held.symm.trans recorded))

end Faithful

/--
A store seen from outside: how it answers, and what it has on record.  It
answers every call as a store in memory would, or fails and changes nothing.
-/
structure Keeper where
  State : Type
  answer : (call : Call) → State → call.Outcome × State
  records : State → Memory
  /-- The store without records. -/
  blank : State
  records_blank : records blank = Memory.empty
  keeps :
    ∀ call state,
      Allows call (records state) (answer call state).1 (records (answer call state).2)

namespace Keeper

/-- A store in memory, which never fails. -/
def memory : Keeper where
  State := Memory
  answer := Memory.answer
  records := id
  blank := Memory.empty
  records_blank := rfl
  keeps call _ := .answers (call.agrees_refl _)

/-- A store in memory whose calls fail as a script has it. -/
def failing {φ : Type} (fault : Call → φ → Option Error × φ) (script : φ) : Keeper where
  State := Memory × φ
  answer call := fun (records, script) =>
    match fault call script with
    | (some error, script) => (.error error, (records, script))
    | (none, script) =>
        ((Memory.answer call records).1, ((Memory.answer call records).2, script))
  records := Prod.fst
  blank := (Memory.empty, script)
  records_blank := rfl
  keeps call := fun (records, script) => by
    cases outcome : fault call script with
    | mk error script =>
        cases error with
        | some error =>
            simp only [outcome]
            exact .fails error
        | none =>
            simp only [outcome]
            exact .answers (call.agrees_refl _)

/-- A store that never fails of its own accord: it answers every call as a store in memory would. -/
def Reliable (keeper : Keeper) : Prop :=
  ∀ (call : Call) (state : keeper.State),
    call.Agrees (keeper.answer call state).1 (Memory.answer call (keeper.records state)).1

/-- A store that never fails when something is looked up; it may fail to record or to erase. -/
def ReadsReliably (keeper : Keeper) : Prop :=
  ∀ (call : Call) (state : keeper.State),
    call.reads = true →
    call.Agrees (keeper.answer call state).1 (Memory.answer call (keeper.records state)).1

/-- A store whose failures are scripted for records and erasures alone never fails to look up. -/
theorem readsReliably_failing {φ : Type}
    {fault : Call → φ → Option Error × φ}
    (finds : ∀ id script, (fault (.getInstance id) script).1 = none)
    (findsBindings : ∀ id bindingId script, (fault (.getBinding id bindingId) script).1 = none)
    (lists : ∀ id script, (fault (.getAllBindings id) script).1 = none)
    (script : φ) :
    (failing fault script).ReadsReliably := by
  rintro call ⟨records, script⟩ reads
  have spared : (fault call script).1 = none := by
    cases call with
    | getInstance id =>
        exact finds id script
    | getBinding id bindingId =>
        exact findsBindings id bindingId script
    | getAllBindings id =>
        exact lists id script
    | addInstance | deleteInstance | addBinding | deleteBinding =>
        cases reads
  cases outcome : fault call script with
  | mk error later =>
      rw [outcome] at spared
      obtain rfl : error = none := spared
      simp only [failing, outcome]
      exact call.agrees_refl _

/-- A store that reads reliably answers every call faithfully. -/
theorem ReadsReliably.faithful
    {keeper : Keeper}
    (reads : keeper.ReadsReliably)
    (call : Call)
    (state : keeper.State) :
    Faithful call (keeper.records state) (keeper.answer call state).1
      (keeper.records (keeper.answer call state).2) where
  allows := keeper.keeps call state
  looked := reads call state

/-- A store that never fails to look up finds every instance on record. -/
theorem ReadsReliably.finds_instance
    {keeper : Keeper}
    (reads : keeper.ReadsReliably)
    {state : keeper.State}
    {id : String}
    {record : ServiceInstance}
    (recorded : (keeper.records state).instance? id = some record) :
    (keeper.answer (.getInstance id) state).1 = .ok record :=
  (reads.faithful (.getInstance id) state).finds_instance recorded

/-- A store that never fails of its own accord reads reliably. -/
theorem Reliable.reads
    {keeper : Keeper}
    (reliable : keeper.Reliable) :
    keeper.ReadsReliably :=
  fun call state _ => reliable call state

/-- A store in memory never fails of its own accord. -/
theorem reliable_memory : memory.Reliable :=
  fun call memory => call.agrees_refl (Memory.answer call memory).1

/-- A store that never fails answers exactly, unless it is asked for a list, whose order is its own. -/
theorem Reliable.exact
    {keeper : Keeper}
    (reliable : keeper.Reliable)
    {call : Call}
    (single : call.lists = false)
    (state : keeper.State) :
    Exact call (keeper.records state) (keeper.answer call state).1
      (keeper.records (keeper.answer call state).2) := by
  have agrees := reliable call state
  have allowed := keeper.keeps call state
  generalize (keeper.answer call state).1 = outcome at agrees allowed ⊢
  generalize keeper.records (keeper.answer call state).2 = after at allowed ⊢
  have same := agrees.eq_of_single single
  cases allowed with
  | answers _ =>
      exact Prod.ext same.symm rfl
  | fails error =>
      exact Prod.ext same.symm (Memory.answer_unchanged_of_error same.symm)

/-- Looking something up leaves the records as they are. -/
theorem records_of_reads
    (keeper : Keeper)
    {call : Call}
    (reads : call.reads = true)
    (state : keeper.State) :
    keeper.records (keeper.answer call state).2 = keeper.records state :=
  (keeper.keeps call state).unchanged_of_reads reads

/-- A store that never fails of its own accord does what a store in memory would do. -/
theorem Reliable.accepts
    {keeper : Keeper}
    (reliable : keeper.Reliable)
    {call : Call}
    {state : keeper.State}
    (accepted : ¬ (keeper.records state).Refuses call) :
    ∃ reply, (keeper.answer call state).1 = .ok reply := by
  cases outcome : (keeper.answer call state).1 with
  | ok reply =>
      exact ⟨reply, rfl⟩
  | error error =>
      have agrees := reliable call state
      rw [outcome] at agrees
      exact absurd (Memory.answer_eq_error_iff.mp ⟨error, agrees.eq_of_error⟩) accepted

end Keeper

end GraphBroker.Store
