import GraphBroker.Proofs.Broker.Records

namespace GraphBroker.Broker

open Store Plan

/-!
# Presence

With a store that never fails, what is recorded can be read off the answers that
the broker gave, and it determines what the next answer may be.
-/

/-! ## Statuses -/

/-- The status of an answer. -/
def Answer.status : Answer → Http.Status
  | .ok success => success.status
  | .error error => error.status

/-- A plan fails with one of three statuses. -/
theorem planStatus_mem
    (error : Plan.Error) :
    error.status = 400 ∨ error.status = 409 ∨ error.status = 500 := by
  cases error <;> simp [Plan.Error.status]

/-- Every error has a status of 400 or beyond. -/
theorem Error.le_status
    (error : Error) :
    400 ≤ error.status := by
  cases error with
  | plan failure =>
      rcases planStatus_mem failure with same | same | same <;> simp [status, same]
  | store failure =>
      cases failure <;> simp [status]
  | _ =>
      simp [status]

/-- No error has the status of a success. -/
theorem Error.status_ne_success
    (error : Error) :
    error.status ≠ 200 ∧ error.status ≠ 201 := by
  have high := error.le_status
  exact ⟨fun same => absurd (same ▸ high) (by decide), fun same => absurd (same ▸ high) (by decide)⟩

/-- A success has one of two statuses. -/
theorem Answer.status_of_successful
    {answer : Answer}
    (successful : answer.status < 300) :
    answer.status = 200 ∨ answer.status = 201 := by
  cases answer with
  | ok success =>
      cases success <;> simp [status, Success.status]
  | error error =>
      exact absurd (Nat.lt_of_lt_of_le successful (by decide)) (Nat.not_lt.mpr error.le_status)

/-- An answer has the status 410 if what was to be taken away is not there. -/
theorem Error.status_eq_gone_iff
    (error : Error) :
    error.status = 410 ↔ (∃ id, error = .instanceGone id) ∨ ∃ id, error = .bindingGone id := by
  cases error with
  | plan failure =>
      rcases planStatus_mem failure with same | same | same <;> simp [status, same]
  | store failure =>
      cases failure <;> simp [status]
  | _ =>
      simp [status]

/-! ## What the answers tell -/

/-- The last thing that a history tells. -/
def latest (tells : Event → Option Bool) (history : List Event) : Option Bool :=
  history.reverse.findSome? tells

/--
An instance came to be there when `provision` was answered 201, and ceased when
`deprovision` was answered 200.
-/
def Event.tellsInstance (id : String) (event : Event) : Option Bool :=
  match event.operation with
  | .provision other _ => if other = id ∧ event.answer.status = 201 then some true else none
  | .deprovision other => if other = id ∧ event.answer.status = 200 then some false else none
  | _ => none

/--
A binding came to be there by the answer 201 to `bind`.  It ceased with its instance
or by any answer to `unbind` but 410.
-/
def Event.tellsBinding (id bindingId : String) (event : Event) : Option Bool :=
  match event.operation with
  | .bind other otherBinding _ =>
      if (other = id ∧ otherBinding = bindingId) ∧ event.answer.status = 201 then some true
      else none
  | .unbind other otherBinding =>
      if (other = id ∧ otherBinding = bindingId) ∧ event.answer.status ≠ 410 then some false
      else none
  | .deprovision other => if other = id ∧ event.answer.status = 200 then some false else none
  | _ => none

/-- An instance is there, as far as the answers tell. -/
def Present (history : List Event) (id : String) : Prop :=
  latest (Event.tellsInstance id) history = some true

/-- A binding is there, as far as the answers tell. -/
def Bound (history : List Event) (id bindingId : String) : Prop :=
  latest (Event.tellsBinding id bindingId) history = some true

/-- The statuses of an answer to an operation where some instances and bindings are there. -/
def Expected (present : String → Prop) (bound : String → String → Prop) :
    Operation → Http.Status → Prop
  | .provision id _, status =>
      (present id → status = 200 ∨ status = 409) ∧ (¬ present id → status ≠ 200)
  | .describe id, status =>
      (present id → status = 200) ∧ (¬ present id → status = 404)
  | .deprovision id, status =>
      status = 410 ↔ ¬ present id
  | .bind id bindingId _, status =>
      (¬ present id → status = 500) ∧
        (bound id bindingId → status = 200 ∨ status = 409) ∧
        (¬ bound id bindingId → status ≠ 200)
  | .unbind id bindingId, status =>
      status = 410 ↔ ¬ present id ∨ ¬ bound id bindingId

/-- The latest word of a history is that of its last event, if it has one. -/
theorem latest_append
    (tells : Event → Option Bool)
    (past : List Event)
    (event : Event) :
    latest tells (past ++ [event]) = (tells event).or (latest tells past) := by
  cases told : tells event <;> simp [latest, told]

/-! ## What a store that never fails does -/

section

variable {broker : Broker} {draws : Draws} {id bindingId : String}
variable {stores : List (Exchange storage)} {calls : List (Exchange administration)}
variable {answer : Answer} {before after : Memory} {record : ServiceInstance}
variable {binding : ServiceBinding} {error : Store.Error}

/-- A record that is found is on record, and the calls after that find it there too. -/
theorem found
    {call : Call}
    {reply : call.Reply}
    (reads : call.reads = true)
    (leads : Leads (P := storage) Exact before (asked call (.ok reply) :: stores) after) :
    before.Holds call reply ∧ Leads (P := storage) Exact before stores after := by
  obtain ⟨looked, later⟩ := leads_of_reads Exact.allows reads leads
  exact ⟨looked.allows.found, later⟩

/-- What is not found is not on record. -/
theorem missed
    {call : Call}
    (reads : call.reads = true)
    (leads : Leads (P := storage) Exact before (asked call (.error error) :: stores) after) :
    before.Refuses call := by
  obtain ⟨looked, _⟩ := leads_of_reads Exact.allows reads leads
  exact looked.refuses_of_error

/-- The look-up of a record fails only if it finds nothing. -/
theorem not_failed
    {call : Call}
    (reads : call.reads = true)
    (single : call.lists = false)
    (leads : Leads (P := storage) Exact before (asked call (.error error) :: stores) after) :
    ¬ error.isNotFound = false := by
  obtain ⟨looked, _⟩ := leads_of_reads Exact.allows reads leads
  simp [looked.isNotFound_of_reads reads single]

/-- The plan and the site of a recorded instance can be found. -/
theorem planOf_ne_error
    {failure : Error}
    (usable : Usable broker before)
    (recorded : before.instance? id = some record) :
    broker.planOf record ≠ .error failure := by
  obtain ⟨_, plan, site, located, _⟩ := usable.instances recorded
  rw [located]
  simp

/-- An instance is recorded. -/
abbrev Recorded (memory : Memory) (id : String) : Prop :=
  memory.instance? id ≠ none

/-- A binding is recorded. -/
abbrev BindingRecorded (memory : Memory) (id bindingId : String) : Prop :=
  memory.binding? id bindingId ≠ none

/-- Provisioning is answered as expected of what is recorded. -/
theorem expected_of_provisioning
    {request : Api.ProvisionRequest}
    (course : Provisioning broker draws id request stores calls answer)
    (leads : Leads (P := storage) Exact before stores after)
    (usable : Usable broker before) :
    Expected (Recorded before) (BindingRecorded before) (.provision id request) answer.status := by
  cases course with
  | lookUpFailed failed =>
      exact absurd failed (not_failed rfl rfl leads)
  | unusable unusable =>
      obtain ⟨recorded, _⟩ := found rfl leads
      exact absurd unusable (planOf_ne_error usable recorded)
  | same located fitting =>
      obtain ⟨recorded, _⟩ := found rfl leads
      simp [Expected, recorded, Answer.status, Success.status]
  | different located unfitting =>
      obtain ⟨recorded, _⟩ := found rfl leads
      simp [Expected, recorded, Answer.status, Error.status]
  | unknownPlan absent unknown =>
      have missing : before.instance? id = none := missed rfl leads
      simp [Expected, missing, Answer.status, Error.status]
  | notCreated absent known creating =>
      have missing : before.instance? id = none := missed rfl leads
      simp [Expected, missing, Answer.status, Error.status_ne_success]
  | notRecorded absent known creating =>
      have missing : before.instance? id = none := missed rfl leads
      simp [Expected, missing, Answer.status, Error.status]
  | provisioned absent known creating =>
      have missing : before.instance? id = none := missed rfl leads
      simp [Expected, missing, Answer.status, Success.status]

/-- Describing is answered as expected of what is recorded. -/
theorem expected_of_describing
    (course : Describing id stores calls answer)
    (leads : Leads (P := storage) Exact before stores after) :
    Expected (Recorded before) (BindingRecorded before) (.describe id) answer.status := by
  cases course with
  | lookUpFailed failed =>
      exact absurd failed (not_failed rfl rfl leads)
  | absent absent =>
      have missing : before.instance? id = none := missed rfl leads
      simp [Expected, missing, Answer.status, Error.status]
  | described =>
      obtain ⟨recorded, _⟩ := found rfl leads
      simp [Expected, recorded, Answer.status, Success.status]

/-- Deprovisioning is answered as expected of what is recorded. -/
theorem expected_of_deprovisioning
    (course : Deprovisioning broker id stores calls answer)
    (leads : Leads (P := storage) Exact before stores after)
    (usable : Usable broker before) :
    Expected (Recorded before) (BindingRecorded before) (.deprovision id) answer.status := by
  cases course with
  | lookUpFailed failed =>
      exact absurd failed (not_failed rfl rfl leads)
  | gone absent =>
      have missing : before.instance? id = none := missed rfl leads
      simp [Expected, missing, Answer.status, Error.status]
  | unusable unusable =>
      obtain ⟨recorded, _⟩ := found rfl leads
      exact absurd unusable (planOf_ne_error usable recorded)
  | notListed located | notRemoved located sweeping removing
  | notErased located sweeping removing =>
      obtain ⟨recorded, _⟩ := found rfl leads
      simp [Expected, recorded, Answer.status, Error.status_eq_gone_iff]
  | deprovisioned located sweeping removing =>
      obtain ⟨recorded, _⟩ := found rfl leads
      simp [Expected, recorded, Answer.status, Success.status]

/-- Binding is answered as expected of what is recorded. -/
theorem expected_of_binding
    {request : Api.BindRequest}
    (course : Binding broker draws id bindingId request stores calls answer)
    (leads : Leads (P := storage) Exact before stores after)
    (usable : Usable broker before) :
    Expected (Recorded before) (BindingRecorded before) (.bind id bindingId request)
      answer.status := by
  cases course with
  | lookUpFailed failed =>
      exact absurd failed (not_failed rfl rfl leads)
  | missing absent =>
      have missing : before.instance? id = none := missed rfl leads
      have unbound := Memory.binding?_of_missing missing bindingId
      simp [Expected, missing, unbound, Answer.status, Error.status]
  | unusable unusable =>
      obtain ⟨recorded, _⟩ := found rfl leads
      exact absurd unusable (planOf_ne_error usable recorded)
  | bindingLookUpFailed located failed =>
      obtain ⟨_, next⟩ := found rfl leads
      exact absurd failed (not_failed rfl rfl next)
  | same located fitting =>
      obtain ⟨recorded, next⟩ := found rfl leads
      obtain ⟨found, _⟩ := found rfl next
      simp [Expected, recorded, found, Answer.status, Success.status]
  | different located unfitting =>
      obtain ⟨recorded, next⟩ := found rfl leads
      obtain ⟨found, _⟩ := found rfl next
      simp [Expected, recorded, found, Answer.status, Error.status]
  | notIssued located absent issuing | notRecorded located absent issuing =>
      obtain ⟨recorded, next⟩ := found rfl leads
      have unbound : before.binding? id bindingId = none := missed rfl next
      simp [Expected, recorded, unbound, Answer.status, Error.status_ne_success]
  | bound located absent issuing =>
      obtain ⟨recorded, next⟩ := found rfl leads
      have unbound : before.binding? id bindingId = none := missed rfl next
      simp [Expected, recorded, unbound, Answer.status, Success.status]

/-- Unbinding is answered as expected of what is recorded. -/
theorem expected_of_unbinding
    (course : Unbinding broker id bindingId stores calls answer)
    (leads : Leads (P := storage) Exact before stores after)
    (usable : Usable broker before) :
    Expected (Recorded before) (BindingRecorded before) (.unbind id bindingId) answer.status := by
  cases course with
  | lookUpFailed failed =>
      exact absurd failed (not_failed rfl rfl leads)
  | gone absent =>
      have missing : before.instance? id = none := missed rfl leads
      simp [Expected, missing, Answer.status, Error.status]
  | bindingLookUpFailed failed =>
      obtain ⟨_, next⟩ := found rfl leads
      exact absurd failed (not_failed rfl rfl next)
  | bindingGone absent =>
      obtain ⟨recorded, next⟩ := found rfl leads
      have unbound : before.binding? id bindingId = none := missed rfl next
      simp [Expected, recorded, unbound, Answer.status, Error.status]
  | unusable unusable =>
      obtain ⟨recorded, _⟩ := found rfl leads
      exact absurd unusable (planOf_ne_error usable recorded)
  | notErased located | notRevoked located revoking =>
      obtain ⟨recorded, next⟩ := found rfl leads
      obtain ⟨found, _⟩ := found rfl next
      simp [Expected, recorded, found, Answer.status, Error.status_eq_gone_iff]
  | unbound located revoking =>
      obtain ⟨recorded, next⟩ := found rfl leads
      obtain ⟨found, _⟩ := found rfl next
      simp [Expected, recorded, found, Answer.status, Success.status]

/-- Whatever else goes wrong, no binding is recorded after an answer to `unbind` other than 410. -/
theorem unbound_of_unbinding
    (course : Unbinding broker id bindingId stores calls answer)
    (leads : Leads (P := storage) Exact before stores after)
    (usable : Usable broker before)
    (status : answer.status ≠ 410) :
    after.binding? id bindingId = none := by
  cases course with
  | lookUpFailed failed =>
      exact absurd failed (not_failed rfl rfl leads)
  | gone absent | bindingGone absent =>
      exact absurd rfl status
  | bindingLookUpFailed failed =>
      obtain ⟨_, next⟩ := found rfl leads
      exact absurd failed (not_failed rfl rfl next)
  | unusable unusable =>
      obtain ⟨recorded, _⟩ := found rfl leads
      exact absurd unusable (planOf_ne_error usable recorded)
  | notErased located =>
      obtain ⟨_, next⟩ := found rfl leads
      obtain ⟨found, _, erasing, rfl⟩ := found rfl next
      rw [erasing.allows.unchanged_of_error]
      exact erasing.refuses_of_error
  | notRevoked located revoking | unbound located revoking =>
      obtain ⟨_, next⟩ := found rfl leads
      obtain ⟨found, _, erased, rfl⟩ := found rfl next
      simp [erased.allows.binding?_of_ok, Call.bindingAfter]

/-- With a store that never fails, what is recorded determines what the answer may be. -/
theorem expected_of_proceeding
    {operation : Operation}
    (course : Proceeding broker draws operation stores calls answer)
    (leads : Leads (P := storage) Exact before stores after)
    (usable : Usable broker before) :
    Expected (Recorded before) (BindingRecorded before) operation answer.status := by
  cases operation with
  | provision id request =>
      exact expected_of_provisioning course leads usable
  | describe id =>
      exact expected_of_describing course leads
  | deprovision id =>
      exact expected_of_deprovisioning course leads usable
  | bind id bindingId request =>
      exact expected_of_binding course leads usable
  | unbind id bindingId =>
      exact expected_of_unbinding course leads usable

end

/-! ## What the answers tell is what is recorded -/

/-- What is told of a fact is that it holds, or that it does not, or nothing where it is kept. -/
def Told (told : Option Bool) (before after : Prop) : Prop :=
  match told with
  | none => after ↔ before
  | some holds => after ↔ holds = true

/-- An answer by which nothing was done does not have the status of something new. -/
theorem status_of_quiet
    {operation : Operation}
    {answer : Answer}
    (quiet : answer.Quiet operation) :
    answer.status ≠ 201 := by
  cases answer with
  | ok success =>
      cases success with
      | provisioned | bound credentials =>
          cases operation <;> exact quiet.elim
      | _ =>
          simp [Answer.status, Success.status]
  | error error =>
      exact error.status_ne_success.2

/-- Deprovisioning does not succeed by doing nothing. -/
theorem status_of_quiet_deprovision
    {id : String}
    {answer : Answer}
    (quiet : answer.Quiet (.deprovision id)) :
    answer.status ≠ 200 := by
  cases answer with
  | ok success =>
      exact quiet.elim
  | error error =>
      exact error.status_ne_success.1

/--
An answer that tells whether an instance is recorded is right, and any other leaves it as
before.
-/
theorem instance_told
    {broker : Broker}
    {draws : Draws}
    {before after : Memory}
    {event : Event}
    (turn : Turn broker draws before event.operation event.calls event.answer after)
    (id : String) :
    Told (event.tellsInstance id) (Recorded before id) (Recorded after id) := by
  obtain ⟨operation, calls, answer⟩ := event
  cases turn with
  | idle quiet =>
      cases operation with
      | provision other request =>
          have status := status_of_quiet quiet
          simp [Event.tellsInstance, status, Told]
      | deprovision other =>
          have status := status_of_quiet_deprovision quiet
          simp [Event.tellsInstance, status, Told]
      | describe _ | bind _ _ _ | unbind _ _ =>
          exact Iff.rfl
  | notCreated creating | instanceNotRecorded creating
  | notRemoved recorded usable listed sweeping removing
  | instanceNotErased recorded usable listed sweeping removing =>
      simp [Event.tellsInstance, Answer.status, Error.status_ne_success, Told]
  | @provisioned other request plan calls payload after known creating added =>
      by_cases same : other = id
      · subst same
        simp [Event.tellsInstance, Answer.status, Success.status, Told, Recorded,
          added.instance?_of_ok, Call.instanceAfter]
      · have elsewhere : id ≠ other := fun here => same here.symm
        simp [Event.tellsInstance, same, elsewhere, Told, Recorded, added.instance?_of_ok,
          Call.instanceAfter]
  | @deprovisioned other record plan site bindings swept calls after recorded usable listed sweeping
      removing erased =>
      by_cases same : other = id
      · subst same
        simp [Event.tellsInstance, Answer.status, Success.status, Told, Recorded,
          erased.instance?_of_ok, Call.instanceAfter]
      · have elsewhere : id ≠ other := fun here => same here.symm
        simp [Event.tellsInstance, same, elsewhere, Told, Recorded, erased.instance?_of_ok,
          Call.instanceAfter]
  | notIssued recorded usable issuing | bindingNotRecorded recorded usable issuing =>
      exact Iff.rfl
  | bound recorded usable issuing added =>
      simp [Event.tellsInstance, Told, Recorded, added.instance?_of_ok, Call.instanceAfter]
  | notRevoked recorded usable held erased revoking
  | unbound recorded usable held erased revoking =>
      simp [Event.tellsInstance, Told, Recorded, erased.instance?_of_ok, Call.instanceAfter]

/--
An answer that tells whether a binding is recorded is right, and any other leaves it as before.
-/
theorem binding_told
    {broker : Broker}
    {draws : Draws}
    {before after : Memory}
    {event : Event}
    (turn : Turn broker draws before event.operation event.calls event.answer after)
    (erasing :
      ∀ {id bindingId},
        event.operation = .unbind id bindingId →
        event.answer.status ≠ 410 →
        after.binding? id bindingId = none)
    (id bindingId : String) :
    Told (event.tellsBinding id bindingId) (BindingRecorded before id bindingId)
      (BindingRecorded after id bindingId) := by
  obtain ⟨operation, calls, answer⟩ := event
  cases turn with
  | idle quiet =>
      cases operation with
      | bind other otherBinding request =>
          have status := status_of_quiet quiet
          simp [Event.tellsBinding, status, Told]
      | deprovision other =>
          have status := status_of_quiet_deprovision quiet
          simp [Event.tellsBinding, status, Told]
      | unbind other otherBinding =>
          by_cases here : (other = id ∧ otherBinding = bindingId) ∧ answer.status ≠ 410
          · obtain ⟨⟨rfl, rfl⟩, status⟩ := here
            simp [Event.tellsBinding, status, Told, BindingRecorded, erasing rfl status]
          · simp only [Event.tellsBinding, here, if_false, Told]
      | describe _ | provision _ _ =>
          exact Iff.rfl
  | notCreated creating | instanceNotRecorded creating =>
      exact Iff.rfl
  | provisioned known creating added =>
      simp [Event.tellsBinding, Told, BindingRecorded, added.binding?_of_ok, Call.bindingAfter]
  | notRemoved recorded usable listed sweeping removing
  | instanceNotErased recorded usable listed sweeping removing
  | notIssued recorded usable issuing | bindingNotRecorded recorded usable issuing =>
      simp [Event.tellsBinding, Answer.status, Error.status_ne_success, Told]
  | @deprovisioned other record plan site bindings swept calls after recorded usable listed sweeping
      removing erased =>
      by_cases same : other = id
      · subst same
        simp [Event.tellsBinding, Answer.status, Success.status, Told, BindingRecorded,
          erased.binding?_of_ok, Call.bindingAfter]
      · have elsewhere : id ≠ other := fun here => same here.symm
        simp [Event.tellsBinding, same, elsewhere, Told, BindingRecorded, erased.binding?_of_ok,
          Call.bindingAfter]
  | @bound other otherBinding request record plan site calls payload after recorded usable issuing
      added =>
      by_cases same : other = id ∧ otherBinding = bindingId
      · obtain ⟨rfl, rfl⟩ := same
        simp [Event.tellsBinding, Answer.status, Success.status, Told, BindingRecorded,
          added.binding?_of_ok, Call.bindingAfter]
      · have elsewhere : ¬ (id = other ∧ bindingId = otherBinding) :=
          fun here => same ⟨here.1.symm, here.2.symm⟩
        simp [Event.tellsBinding, same, elsewhere, Told, BindingRecorded, added.binding?_of_ok,
          Call.bindingAfter]
  | @notRevoked other otherBinding record plan site binding calls failure after recorded usable held
      erased revoking
  | @unbound other otherBinding record plan site binding calls after recorded usable held erased
      revoking =>
      by_cases same : other = id ∧ otherBinding = bindingId
      · obtain ⟨rfl, rfl⟩ := same
        simp [Event.tellsBinding, Answer.status, Success.status, Error.status, Told,
          BindingRecorded, erased.binding?_of_ok, Call.bindingAfter]
      · have elsewhere : ¬ (id = other ∧ bindingId = otherBinding) :=
          fun here => same ⟨here.1.symm, here.2.symm⟩
        simp [Event.tellsBinding, same, elsewhere, Told, BindingRecorded, erased.binding?_of_ok,
          Call.bindingAfter]

section

variable {broker : Broker} {draws : Draws} {before after : Memory} {id bindingId : String}
variable {calls : List (Exchange administration)} {answer : Answer}

/-- What the status 201 to `provision` records: one instance, under its identifier. -/
theorem recorded_of_provision
    {request : Api.ProvisionRequest}
    (turn : Turn broker draws before (.provision id request) calls answer after)
    (status : answer.status = 201) :
    ∃ record : ServiceInstance, record.guid = id ∧
      (∀ other, after.instance? other = if other = id then some record else before.instance? other) ∧
      ∀ other otherBinding, after.binding? other otherBinding = before.binding? other otherBinding := by
  cases turn with
  | idle quiet =>
      exact absurd status (status_of_quiet quiet)
  | notCreated creating | instanceNotRecorded creating =>
      simp [Answer.status, Error.status_ne_success] at status
  | @provisioned _ _ plan calls payload _ known creating added =>
      exact ⟨recordFor id request payload, rfl, added.instance?_of_ok, added.binding?_of_ok⟩

/-- What the status 201 to `bind` records: one binding, under the identifiers of both. -/
theorem recorded_of_bind
    {request : Api.BindRequest}
    (turn : Turn broker draws before (.bind id bindingId request) calls answer after)
    (status : answer.status = 201) :
    ∃ binding : ServiceBinding, binding.guid = bindingId ∧
      (∀ other otherBinding,
        after.binding? other otherBinding =
          if other = id ∧ otherBinding = bindingId then some binding
          else before.binding? other otherBinding) ∧
      ∀ other, after.instance? other = before.instance? other := by
  cases turn with
  | idle quiet =>
      exact absurd status (status_of_quiet quiet)
  | notIssued recorded usable issuing | bindingNotRecorded recorded usable issuing =>
      simp [Answer.status, Error.status_ne_success] at status
  | @bound _ _ _ record plan site calls payload _ recorded usable issuing added =>
      exact ⟨⟨bindingId, payload⟩, rfl, added.binding?_of_ok, added.instance?_of_ok⟩

end

/-- What is recorded is what a history tells. -/
structure Mirrors (past : List Event) (memory : Memory) : Prop where
  instances : ∀ id, Recorded memory id ↔ Present past id
  bindings : ∀ id bindingId, BindingRecorded memory id bindingId ↔ Bound past id bindingId

/-- What is told with an event is told last. -/
theorem latest_of_told
    {tells : Event → Option Bool}
    {past : List Event}
    {event : Event}
    {before after : Prop}
    (told : Told (tells event) before after)
    (mirrored : before ↔ latest tells past = some true) :
    after ↔ latest tells (past ++ [event]) = some true := by
  rw [latest_append]
  unfold Told at told
  cases news : tells event with
  | none =>
      rw [news] at told
      simpa using told.trans mirrored
  | some holds =>
      rw [news] at told
      simpa using told

section

variable {τ : Type} {broker : Broker}
variable {server : (question : AdminQuestion) → τ → question.Outcome × τ}

/-- The store calls of a turn lead from one memory to the next, each answered exactly. -/
theorem leads_exact
    (task : Task)
    (state : Keeper.memory.State × τ) :
    Leads (P := storage) Exact state.1
      (storeCalls (broker.conversation Keeper.memory server task state))
      (broker.carryOut Keeper.memory server task state).2.1 := by
  have lawful (call : Call) (memory : Keeper.memory.State) :
      Exact call (Keeper.memory.records memory) (Keeper.memory.answer call memory).1
        (Keeper.memory.records (Keeper.memory.answer call memory).2) :=
    rfl
  exact leads_records lawful task state

/-- After an answer to `unbind` other than 410 no binding is recorded. -/
theorem unbound_of_task
    {id bindingId : String}
    (task : Task)
    (state : Keeper.memory.State × τ)
    (usable : Usable broker state.1)
    (asked : task.operation = .unbind id bindingId)
    (status : (broker.seen Keeper.memory server task state).answer.status ≠ 410) :
    Memory.binding? (broker.carryOut Keeper.memory server task state).2.1 id bindingId = none := by
  have course : Proceeding broker task.draws task.operation
      (storeCalls (broker.conversation Keeper.memory server task state))
      (broker.seen Keeper.memory server task state).calls
      (broker.seen Keeper.memory server task state).answer := proceeding_of_task task state
  rw [asked] at course
  exact unbound_of_unbinding course (leads_exact task state) usable status

/-- A task keeps the records usable, and what is told of them stays true. -/
theorem mirrors_of_task
    (past : List Event)
    (task : Task)
    (state : Keeper.memory.State × τ)
    (usable : Usable broker state.1)
    (mirrors : Mirrors past state.1) :
    Usable broker (broker.carryOut Keeper.memory server task state).2.1 ∧
      Mirrors (past ++ [broker.seen Keeper.memory server task state])
        (broker.carryOut Keeper.memory server task state).2.1 := by
  have turn : Turn broker task.draws state.1 task.operation
      (broker.seen Keeper.memory server task state).calls
      (broker.seen Keeper.memory server task state).answer
      (broker.carryOut Keeper.memory server task state).2.1 := turn_of_task task state
  refine ⟨usable_of_turn turn usable, ?_, ?_⟩
  · intro id
    exact latest_of_told (instance_told turn id) (mirrors.instances id)
  · intro id bindingId
    exact latest_of_told (binding_told turn (unbound_of_task task state usable) id bindingId)
      (mirrors.bindings id bindingId)

/-- What is told before a task determines what its answer may be. -/
theorem expected_of_task
    (past : List Event)
    (task : Task)
    (state : Keeper.memory.State × τ)
    (usable : Usable broker state.1)
    (mirrors : Mirrors past state.1) :
    Expected (Present past) (Bound past) task.operation
      (broker.carryOut Keeper.memory server task state).1.status := by
  have instances : Recorded state.1 = Present past :=
    funext fun id => propext (mirrors.instances id)
  have bindings : BindingRecorded state.1 = Bound past :=
    funext fun id => funext fun bindingId => propext (mirrors.bindings id bindingId)
  rw [← instances, ← bindings]
  exact expected_of_proceeding (proceeding_of_task task state) (leads_exact task state) usable

end

/--
With a store that never fails, whatever the servers do, the records are those
that the answers tell of, and the next answer is one that can be expected.
-/
theorem answers_tell_records
    {τ : Type}
    (broker : Broker)
    (server : (question : AdminQuestion) → τ → question.Outcome × τ)
    (others : τ)
    (tasks : List Task) :
    let past := broker.history Keeper.memory server tasks (Memory.empty, others)
    let state := broker.afterwards Keeper.memory server tasks (Memory.empty, others)
    Mirrors past state.1 ∧
      ∀ task,
        Expected (Present past) (Bound past) task.operation
          (broker.carryOut Keeper.memory server task state).1.status := by
  intro past state
  let sound (past : List Event) (state : Keeper.memory.State × τ) : Prop :=
    Usable broker state.1 ∧ Mirrors past state.1
  have start : sound [] (Memory.empty, others) := by
    refine ⟨Each.empty, ?_, ?_⟩
    · intro id
      simp [Present, latest]
    · intro id bindingId
      simp [Bound, latest]
  have step (past : List Event) (task : Task) (state : Keeper.memory.State × τ)
      (holds : sound past state) :
      sound (past ++ [broker.seen Keeper.memory server task state])
        (broker.carryOut Keeper.memory server task state).2 :=
    mirrors_of_task past task state holds.1 holds.2
  have kept : sound past state := history_induction step tasks start
  exact ⟨kept.2, fun task => expected_of_task past task state kept.1 kept.2⟩

end GraphBroker.Broker
