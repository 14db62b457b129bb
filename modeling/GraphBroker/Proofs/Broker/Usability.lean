import GraphBroker.Proofs.Broker.Records

namespace GraphBroker

open Store Plan

/-!
# Every record can be used

The broker writes no record that it could not use later.  It therefore never
answers that a record is to blame: that the plan of an instance is not offered,
or that what was written for an instance or a binding cannot be read.  This holds
whatever requests carry, and however often the store and the servers fail.
-/

/-- A plan reports that it cannot read what was recorded for it. -/
def Plan.Error.BlamesRecord : Plan.Error → Prop
  | .unreadableInstance _ _ | .unreadableBinding _ _ => True
  | _ => False

namespace Broker

/-- The broker reports that it cannot use what it recorded. -/
def Error.BlamesRecord : Error → Prop
  | .planMissing _ _ => True
  | .plan failure | .notRevoked failure => failure.BlamesRecord
  | _ => False

/-- An answer that blames a record. -/
def Answer.BlamesRecord : Answer → Prop
  | .ok _ => False
  | .error error => error.BlamesRecord

end Broker

/-! ## Failures of a plan -/

namespace Plan

variable {plan : Plan} {site : Site} {draws : Draws} {parameters payload : Json}
variable {calls : List (Exchange administration)} {failure : Error}

/-- What is turned down as a bad request is not a record. -/
theorem Error.not_blamesRecord_of_status
    (refused : failure.status = 400) :
    ¬ failure.BlamesRecord := by
  cases failure with
  | unreadableInstance | unreadableBinding =>
      cases refused
  | _ =>
      exact not_false

/-- A creation that fails does not blame a record. -/
theorem Creating.not_blamesRecord
    (creating : plan.Creating draws parameters calls (.error failure)) :
    ¬ failure.BlamesRecord := by
  cases creating with
  | refused reason =>
      exact Error.not_blamesRecord_of_status reason
  | failed offered =>
      exact not_false

/-- A removal that fails does not blame a record. -/
theorem Removing.not_blamesRecord
    (removing : Removing site calls (.error failure)) :
    ¬ failure.BlamesRecord := by
  cases removing with
  | failed =>
      exact not_false

/-- An issue that fails does not blame a record. -/
theorem Issuing.not_blamesRecord
    (issuing : Issuing site draws parameters calls (.error failure)) :
    ¬ failure.BlamesRecord := by
  cases issuing with
  | malformed | unchecked | taken | notCreated | notGranted =>
      exact not_false

/-- Credentials that were recorded as they are written can be read. -/
theorem Revoking.not_blamesRecord
    {server : Server}
    {binding : ServiceBinding}
    {credentials : Credentials}
    (written : binding.payload = credentials.payload)
    (revoking : Revoking server binding calls (.error failure)) :
    ¬ failure.BlamesRecord := by
  cases revoking with
  | unreadable unread =>
      rw [written, credentials.project_payload] at unread
      cases unread
  | notRevoked | notDeleted =>
      exact not_false

end Plan

namespace Broker

section

variable {broker : Broker} {draws : Draws} {id bindingId : String}
variable {stores : List (Exchange storage)}
variable {calls : List (Exchange administration)}
variable {answer : Answer} {before after : Memory}

/-- A recorded instance belongs to a plan that is offered, and can be read. -/
theorem Each.planOf_eq_ok
    {record : ServiceInstance}
    (usable : Usable broker before)
    (recorded : before.instance? id = some record) :
    ∃ plan site, broker.planOf record = .ok (plan, site) := by
  obtain ⟨_, plan, site, located, _⟩ := usable.instances recorded
  exact ⟨plan, site, located⟩

/-! ## Answers -/

/-- An instance that was found can be used. -/
theorem usable_of_found
    {record : ServiceInstance}
    {error : Error}
    (leads : Leads (P := storage) Allows before (asked (.getInstance id) (.ok record) :: stores) after)
    (usable : Usable broker before) :
    broker.planOf record ≠ .error error := by
  obtain ⟨looked, _⟩ := looked_first rfl leads
  obtain ⟨plan, site, located⟩ := usable.planOf_eq_ok looked.found_instance
  simp [located]

/-- With usable records no answer to provisioning blames one. -/
theorem not_blamesRecord_of_provisioning
    {request : Api.ProvisionRequest}
    (course : Provisioning broker draws id request stores calls answer)
    (leads : Leads (P := storage) Allows before stores after)
    (usable : Usable broker before) :
    ¬ answer.BlamesRecord := by
  cases course with
  | unusable unusable =>
      exact absurd unusable (usable_of_found leads usable)
  | notCreated absent known creating =>
      exact creating.not_blamesRecord
  | lookUpFailed | same | different | unknownPlan | notRecorded | provisioned =>
      exact not_false

/-- Describing reads no payload that it could blame. -/
theorem not_blamesRecord_of_describing
    (course : Describing id stores calls answer) :
    ¬ answer.BlamesRecord := by
  cases course with
  | lookUpFailed | absent | described =>
      exact not_false

/-- With usable records no answer to deprovisioning blames one. -/
theorem not_blamesRecord_of_deprovisioning
    (course : Deprovisioning broker id stores calls answer)
    (leads : Leads (P := storage) Allows before stores after)
    (usable : Usable broker before) :
    ¬ answer.BlamesRecord := by
  cases course with
  | unusable unusable =>
      exact absurd unusable (usable_of_found leads usable)
  | notRemoved located sweeping removing =>
      exact removing.not_blamesRecord
  | lookUpFailed | gone | notListed | notErased | deprovisioned =>
      exact not_false

/-- With usable records no answer to binding blames one. -/
theorem not_blamesRecord_of_binding
    {request : Api.BindRequest}
    (course : Binding broker draws id bindingId request stores calls answer)
    (leads : Leads (P := storage) Allows before stores after)
    (usable : Usable broker before) :
    ¬ answer.BlamesRecord := by
  cases course with
  | unusable unusable =>
      exact absurd unusable (usable_of_found leads usable)
  | notIssued located absent issuing =>
      exact issuing.not_blamesRecord
  | lookUpFailed | missing | bindingLookUpFailed | same | different | notRecorded | bound =>
      exact not_false

/-- With usable records no answer to unbinding blames one. -/
theorem not_blamesRecord_of_unbinding
    (course : Unbinding broker id bindingId stores calls answer)
    (leads : Leads (P := storage) Allows before stores after)
    (usable : Usable broker before) :
    ¬ answer.BlamesRecord := by
  cases course with
  | unusable unusable =>
      exact absurd unusable (usable_of_found leads usable)
  | notRevoked located revoking =>
      obtain ⟨_, next⟩ := looked_first rfl leads
      obtain ⟨searched, _⟩ := looked_first rfl next
      obtain ⟨_, _, _, _, _, _, _, written, _⟩ := usable.bindings searched.found_binding
      exact revoking.not_blamesRecord written
  | lookUpFailed | gone | bindingLookUpFailed | bindingGone | notErased | unbound =>
      exact not_false

/-- While every record can be used, no answer blames one. -/
theorem not_blamesRecord_of_proceeding
    {operation : Operation}
    (course : Proceeding broker draws operation stores calls answer)
    (leads : Leads (P := storage) Allows before stores after)
    (usable : Usable broker before) :
    ¬ answer.BlamesRecord := by
  cases operation with
  | provision id request =>
      exact not_blamesRecord_of_provisioning course leads usable
  | describe id =>
      exact not_blamesRecord_of_describing course
  | deprovision id =>
      exact not_blamesRecord_of_deprovisioning course leads usable
  | bind id bindingId request =>
      exact not_blamesRecord_of_binding course leads usable
  | unbind id bindingId =>
      exact not_blamesRecord_of_unbinding course leads usable

end

/--
After every history, each record can be used, the plan and the site of each
recorded instance are found, and no answer so far blamed a record.
-/
theorem records_usable_throughout {τ : Type}
    (broker : Broker)
    (keeper : Keeper)
    (server : (question : AdminQuestion) → τ → question.Outcome × τ)
    (others : τ)
    (tasks : List Task) :
    let memory := keeper.records (broker.afterwards keeper server tasks (keeper.blank, others)).1
    Usable broker memory ∧
      (∀ {id record},
        memory.instance? id = some record →
        ∃ plan site, broker.planOf record = .ok (plan, site)) ∧
      ∀ event ∈ broker.history keeper server tasks (keeper.blank, others),
        ¬ event.answer.BlamesRecord := by
  let holds (past : List Event) (state : keeper.State × τ) : Prop :=
    Usable broker (keeper.records state.1) ∧ ∀ event ∈ past, ¬ event.answer.BlamesRecord
  have begun : holds [] (keeper.blank, others) := by
    refine ⟨?_, by simp⟩
    rw [keeper.records_blank]
    exact .empty
  have preserved (past : List Event) (task : Task) (state : keeper.State × τ)
      (held : holds past state) :
      holds (past ++ [broker.seen keeper server task state])
        (broker.carryOut keeper server task state).2 := by
    obtain ⟨usable, blameless⟩ := held
    refine ⟨usable_of_turn (turn_of_task task state) usable, ?_⟩
    intro event member
    rcases List.mem_append.mp member with earlier | last
    · exact blameless event earlier
    · obtain rfl := List.mem_singleton.mp last
      exact not_blamesRecord_of_proceeding (proceeding_of_task task state)
        (leads_records keeper.keeps task state) usable
  obtain ⟨usable, blameless⟩ := history_induction preserved tasks begun
  exact ⟨usable, fun recorded => usable.planOf_eq_ok recorded, by simpa using blameless⟩

end Broker

end GraphBroker
