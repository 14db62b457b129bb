import GraphBroker.Proofs.Admin.World
import GraphBroker.Proofs.Broker.Records
import GraphBroker.Proofs.Plan.Registry

namespace GraphBroker.Broker

open Store Plan

/-!
# Provisioning what is there already

A request for an instance that is on record is compared with the record: with what
it says of the platform, and with the site that the payload describes.  The
payload came from an earlier request, with names drawn where that request left
them open.  The request from which an instance was made describes its site
whatever was drawn, so that it is recognized however often it is repeated.
-/

/--
A request asks for an instance as it is on record: the same organization, space,
service and plan, and parameters of the plan's shape which leave the database open
or name the one of the instance.
-/
structure AsksFor
    (plan : Plan)
    (site : Site)
    (record : ServiceInstance)
    (request : Api.ProvisionRequest) :
    Prop where
  organization : request.organization = record.organization
  space : request.space = record.space
  service : request.service = record.service
  planId : request.planId = record.planId
  parameters :
    ∃ wanted, plan.site? request.parameters = .ok wanted ∧
      (wanted.database = "" ∨ wanted.database = site.database)

/-- The instance was removed: it was deprovisioned, and that was answered with success. -/
def Event.Removes (id : String) (event : Event) : Prop :=
  event.operation = .deprovision id ∧ event.answer = .ok .deprovisioned

/-! ## The comparison -/

/-- Parameters describe a site when they name its database, or none. -/
theorem describes_iff
    {plan : Plan}
    {site : Site}
    {parameters : Json} :
    plan.describes site parameters = true ↔
      ∃ wanted, plan.site? parameters = .ok wanted ∧
        (wanted.database = "" ∨ wanted.database = site.database) := by
  cases asked : plan.site? parameters with
  | error error =>
      simp [describes, requestedDatabase, asked, Except.map]
  | ok wanted =>
      simp [describes, requestedDatabase, asked, Except.map]

/-- A recorded instance fits a request if the request asks for it. -/
theorem fits_iff
    {plan : Plan}
    {site : Site}
    {record : ServiceInstance}
    {request : Api.ProvisionRequest}
    (named : plan.id = record.planId) :
    fits plan site record request = true ↔ AsksFor plan site record request := by
  simp only [fits, Bool.and_eq_true, beq_iff_eq, describes_iff, named]
  constructor
  · rintro ⟨⟨⟨⟨organization, space⟩, planId⟩, service⟩, parameters⟩
    exact ⟨organization.symm, space.symm, service.symm, planId.symm, parameters⟩
  · rintro ⟨organization, space, service, planId, parameters⟩
    exact ⟨⟨⟨⟨organization.symm, space.symm⟩, planId.symm⟩, service.symm⟩, parameters⟩

/-- The plan of a record has the identifier that the record names. -/
theorem planId_of_planOf
    {broker : Broker}
    {record : ServiceInstance}
    {plan : Plan}
    {site : Site}
    (filed : broker.plans.Filed)
    (usable : broker.planOf record = .ok (plan, site)) :
    plan.id = record.planId :=
  filed (planOf_eq_ok_iff.mp usable).1

/-! ## What is found on record -/

section

variable {keeper : Keeper}

/-- The store answers a call in this way. -/
def Replies (keeper : Keeper)
    (call : Call)
    (before : keeper.State)
    (outcome : call.Outcome)
    (after : keeper.State) :
    Prop :=
  keeper.answer call before = (outcome, after)

/-- The first call of a task is answered by the store as it is before the task. -/
theorem replied_first
    {call : Call}
    {outcome : call.Outcome}
    {stores : List (Exchange storage)}
    {before after : keeper.State}
    (leads : Leads (P := storage) (Replies keeper) before (asked call outcome :: stores) after) :
    outcome = (keeper.answer call before).1 ∧
      Leads (P := storage) (Replies keeper) (keeper.answer call before).2 stores after := by
  obtain ⟨middle, replied, later⟩ := leads
  unfold Replies at replied
  rw [replied]
  exact ⟨rfl, later⟩

variable {broker : Broker} {draws : Draws} {id : String} {request : Api.ProvisionRequest}
variable {record : ServiceInstance} {plan : Plan} {site : Site}

/-- A request for an instance that is found is compared with it, and nothing else is done. -/
theorem compared_of_provisioning
    {stores : List (Exchange storage)}
    {calls : List (Exchange administration)}
    {answer : Answer}
    {before after : keeper.State}
    (course : Provisioning broker draws id request stores calls answer)
    (leads : Leads (P := storage) (Replies keeper) before stores after)
    (found : (keeper.answer (.getInstance id) before).1 = .ok record)
    (usable : broker.planOf record = .ok (plan, site)) :
    calls = [] ∧ keeper.records after = keeper.records before ∧
      answer =
        if fits plan site record request then .ok .alreadyProvisioned
        else .error (.conflict id) := by
  have unchanged :
      keeper.records (keeper.answer (.getInstance id) before).2 = keeper.records before :=
    (keeper.keeps (.getInstance id) before).unchanged_of_reads rfl
  cases course with
  | lookUpFailed | unknownPlan | notCreated | notRecorded | provisioned =>
      obtain ⟨missed, _⟩ := replied_first leads
      rw [found] at missed
      cases missed
  | unusable unusable =>
      obtain ⟨same, _⟩ := replied_first leads
      rw [found] at same
      cases same
      rw [usable] at unusable
      cases unusable
  | same located fitting | different located fitting =>
      obtain ⟨same, rfl⟩ := replied_first leads
      rw [found] at same
      cases same
      rw [usable] at located
      cases located
      simp [fitting, unchanged]

/-! ## What stays on record -/

/-- An instance stays on record until it is removed. -/
theorem instance_kept_of_turn
    {operation : Operation}
    {calls : List (Exchange administration)}
    {answer : Answer}
    {before after : Memory}
    (turn : Turn broker draws before operation calls answer after)
    (kept : ¬ (operation = .deprovision id ∧ answer = .ok .deprovisioned))
    (recorded : before.instance? id = some record) :
    after.instance? id = some record := by
  cases turn with
  | idle | notCreated | instanceNotRecorded | notRemoved | instanceNotErased | notIssued
  | bindingNotRecorded =>
      exact recorded
  | @provisioned other _ _ _ _ _ known creating added =>
      have elsewhere : id ≠ other := by
        rintro rfl
        rw [added.absent_of_added_instance] at recorded
        cases recorded
      rw [added.instance?_of_ok]
      simpa only [Call.instanceAfter, elsewhere, if_false] using recorded
  | @deprovisioned other _ _ _ _ _ _ _ _ usable listed sweeping removing erased =>
      have elsewhere : id ≠ other := by
        rintro rfl
        exact kept ⟨rfl, rfl⟩
      rw [erased.instance?_of_ok]
      simpa only [Call.instanceAfter, elsewhere, if_false] using recorded
  | bound _ _ _ changed | notRevoked _ _ _ changed | unbound _ _ _ changed =>
      rw [changed.instance?_of_ok]
      exact recorded

/-- An instance that was provisioned is on record, and its site is the one asked for. -/
theorem instance_of_provisioned_turn
    {calls : List (Exchange administration)}
    {before after : Memory}
    (turn : Turn broker draws before (.provision id request) calls (.ok .provisioned) after) :
    ∃ payload plan site,
      broker.planOf (recordFor id request payload) = .ok (plan, site) ∧
        plan.describes site request.parameters = true ∧
        after.instance? id = some (recordFor id request payload) := by
  cases turn with
  | idle quiet =>
      cases quiet
  | provisioned known creating added =>
      cases creating with
      | created offered readable requested =>
          refine ⟨_, _, _, planOf_eq_ok_iff.mpr ⟨known, readable⟩, requested, ?_⟩
          rw [added.instance?_of_ok]
          simp [Call.instanceAfter]

end

/-! ## Histories -/

section

variable {τ : Type} {broker : Broker} {keeper : Keeper} {id : String}
variable {server : (question : AdminQuestion) → τ → question.Outcome × τ}

/-- An instance on record stays there while no task removes it. -/
theorem instance_kept_of_tasks
    {record : ServiceInstance}
    (tasks : List Task)
    {state : keeper.State × τ}
    (kept : ∀ event ∈ broker.history keeper server tasks state, ¬ event.Removes id)
    (recorded : (keeper.records state.1).instance? id = some record) :
    (keeper.records (broker.afterwards keeper server tasks state).1).instance? id =
      some record := by
  induction tasks generalizing state with
  | nil =>
      exact recorded
  | cons task rest inductionHypothesis =>
      have here : ¬ (broker.seen keeper server task state).Removes id :=
        kept _ (by simp [history])
      have still := instance_kept_of_turn (turn_of_task task state) here recorded
      exact inductionHypothesis (fun event member => kept event (by simp [history, member])) still

/-- What a task asks of the store is answered by the store as it is then. -/
theorem leads_replies
    {server : (question : AdminQuestion) → τ → question.Outcome × τ}
    (task : Task)
    (state : keeper.State × τ) :
    Leads (P := storage) (Replies keeper) state.1
      (storeCalls (broker.conversation keeper server task state))
      (broker.carryOut keeper server task state).2.1 := by
  let view : keeper.State → keeper.State := fun state => state
  have replies : ∀ call state,
      Replies keeper call (view state) (keeper.answer call state).1
        (view (keeper.answer call state).2) :=
    fun _ _ => rfl
  exact leads_records replies task state

/-- A request for an instance that the store finds is compared with its record. -/
theorem compared_of_task
    (server : (question : AdminQuestion) → τ → question.Outcome × τ)
    {record : ServiceInstance}
    {plan : Plan}
    {site : Site}
    {state : keeper.State × τ}
    (found : (keeper.answer (.getInstance id) state.1).1 = .ok record)
    (usable : broker.planOf record = .ok (plan, site))
    (draws : Draws)
    (request : Api.ProvisionRequest) :
    let task : Task := ⟨draws, .provision id request⟩
    (broker.seen keeper server task state).calls = [] ∧
      keeper.records (broker.carryOut keeper server task state).2.1 = keeper.records state.1 ∧
      (broker.seen keeper server task state).answer =
        if fits plan site record request then .ok .alreadyProvisioned
        else .error (.conflict id) := by
  intro task
  have course : Provisioning broker draws id request
      (storeCalls (broker.conversation keeper server task state))
      (broker.seen keeper server task state).calls
      (broker.seen keeper server task state).answer :=
    proceeding_of_task task state
  exact compared_of_provisioning course (leads_replies task state) found usable

end

/--
In every state that the broker reaches, a request for an instance that the store
finds makes no call on a server and changes no record.  It is answered with success
if it asks for the instance as it is on record, and otherwise turned down.  The
request from which the instance was made is therefore answered with success
whenever it is repeated, until the instance is removed: always with a store that
never fails to look up, and with any store where it finds the instance.
-/
theorem provision_idempotent
    {τ : Type}
    (broker : Broker)
    (filed : broker.plans.Filed)
    (keeper : Keeper)
    (server : (question : AdminQuestion) → τ → question.Outcome × τ)
    (others : τ)
    (tasks : List Task)
    (id : String) :
    let reached := broker.afterwards keeper server tasks (keeper.blank, others)
    (∀ record,
      (keeper.answer (.getInstance id) reached.1).1 = .ok record →
      (keeper.records reached.1).instance? id = some record ∧
        ∃ plan site, broker.planOf record = .ok (plan, site) ∧
          ∀ draws request,
            let repetition : Task := ⟨draws, .provision id request⟩
            let event := broker.seen keeper server repetition reached
            event.calls = [] ∧
              keeper.records (broker.carryOut keeper server repetition reached).2.1 =
                keeper.records reached.1 ∧
              (AsksFor plan site record request → event.answer = .ok .alreadyProvisioned) ∧
              (¬ AsksFor plan site record request → event.answer = .error (.conflict id))) ∧
    ∀ draws again request between,
      let first := broker.carryOut keeper server ⟨draws, .provision id request⟩ reached
      let later := broker.afterwards keeper server between first.2
      let repetition : Task := ⟨again, .provision id request⟩
      let event := broker.seen keeper server repetition later
      first.1 = .ok .provisioned →
      (∀ event ∈ broker.history keeper server between first.2, ¬ event.Removes id) →
      (keeper.ReadsReliably ∨
        ∃ record, (keeper.answer (.getInstance id) later.1).1 = .ok record) →
      event.calls = [] ∧
        keeper.records (broker.carryOut keeper server repetition later).2.1 =
          keeper.records later.1 ∧
        event.answer = .ok .alreadyProvisioned := by
  intro reached
  constructor
  · intro record found
    have looked := keeper.keeps (.getInstance id) reached.1
    rw [found] at looked
    have everything : Usable broker (keeper.records reached.1) :=
      records_induction (motive := fun _ memory => Usable broker memory)
        (fun turn usable => usable_of_turn turn usable) .empty tasks others
    obtain ⟨_, plan, site, usable, _⟩ := everything.instances looked.found_instance
    refine ⟨looked.found_instance, plan, site, usable, ?_⟩
    intro draws request repetition event
    obtain ⟨silent, unchanged, answered⟩ :=
      compared_of_task server found usable draws request
    have fitting : fits plan site record request = true ↔ AsksFor plan site record request :=
      fits_iff (planId_of_planOf filed usable)
    refine ⟨silent, unchanged, ?_, ?_⟩
    · intro asks
      rw [show event.answer = _ from answered, if_pos (fitting.mpr asks)]
    · intro asksNot
      rw [show event.answer = _ from answered, if_neg (mt fitting.mp asksNot)]
  · intro draws again request between first later repetition event made kept finds
    have turn : Turn broker draws (keeper.records reached.1) (.provision id request)
        (broker.seen keeper server ⟨draws, .provision id request⟩ reached).calls
        first.1 (keeper.records first.2.1) :=
      turn_of_task ⟨draws, .provision id request⟩ reached
    rw [made] at turn
    obtain ⟨payload, plan, site, usable, described, recorded⟩ := instance_of_provisioned_turn turn
    have still : (keeper.records later.1).instance? id = some (recordFor id request payload) :=
      instance_kept_of_tasks between kept recorded
    have found : (keeper.answer (.getInstance id) later.1).1 =
        .ok (recordFor id request payload) := by
      rcases finds with reads | ⟨held, found⟩
      · exact reads.finds_instance still
      · have looked := keeper.keeps (.getInstance id) later.1
        rw [found] at looked ⊢
        exact congrArg Except.ok (Option.some.inj (looked.found_instance.symm.trans still))
    obtain ⟨silent, unchanged, answered⟩ :=
      compared_of_task server found usable again request
    have asks : AsksFor plan site (recordFor id request payload) request :=
      ⟨rfl, rfl, rfl, rfl, describes_iff.mp described⟩
    have fitting := (fits_iff (planId_of_planOf filed usable)).mpr asks
    exact ⟨silent, unchanged, answered.trans (if_pos fitting)⟩

/-! ## A store that deletes nothing -/

theorem filed_soleServer : soleServer.plans.Filed :=
  Registry.filed_empty.insert ⟨"shared", .shared ⟨"http://server", ⟨"admin", "secret"⟩⟩⟩

/-- A store in memory that fails when it is asked to delete something. -/
def retentive : Keeper :=
  .failing
    (fun call (_ : Unit) =>
      match call with
      | .deleteInstance _ | .deleteBinding _ _ => (some (.database .readOnly), ())
      | _ => (none, ()))
    ()

/-- Looking something up never fails, whatever may not be deleted. -/
theorem readsReliably_retentive :
    retentive.ReadsReliably :=
  Keeper.readsReliably_failing (fun _ _ => rfl) (fun _ _ _ => rfl) (fun _ _ => rfl) ()

/-- A request that leaves the name of the database open. -/
def openProvision : Api.ProvisionRequest :=
  ⟨"service", "shared", "org", "space", .null⟩

/-- The same request, but for a database by name. -/
def namedProvision (name : String) : Api.ProvisionRequest :=
  ⟨"service", "shared", "org", "space", .object [("db_name", .text name), ("more", .null)]⟩

/--
A database whose name was drawn is recognized by the request that left the name open,
also after a deletion that failed, and by its name, but not by another.
-/
theorem alreadyProvisioned_of_openProvision :
    let server := World.answer World.unfailing
    let others := ((fun _ => ⟨[], []⟩ : World), ())
    let task : Task := ⟨plainDraws, .provision "i1" openProvision⟩
    let failedDeletion : Task := ⟨plainDraws, .deprovision "i1"⟩
    let reached := soleServer.afterwards retentive server [task, failedDeletion]
      (retentive.blank, others)
    let ask (request : Api.ProvisionRequest) : Answer :=
      (soleServer.seen retentive server ⟨plainDraws, .provision "i1" request⟩ reached).answer
    (soleServer.carryOut retentive server task (retentive.blank, others)).1 = .ok .provisioned ∧
      ask openProvision = .ok .alreadyProvisioned ∧
      ask (namedProvision plainDraws.databaseName) = .ok .alreadyProvisioned ∧
      ask (namedProvision "other") = .error (.conflict "i1") := by
  intro server others task failedDeletion reached ask
  let site : Site := ⟨plainDraws.databaseName, ⟨"http://server", ⟨"admin", "secret"⟩⟩⟩
  let record : ServiceInstance :=
    recordFor "i1" openProvision (DatabaseChoice.payload ⟨plainDraws.databaseName⟩)
  have found : (retentive.answer (.getInstance "i1") reached.1).1 = .ok record := rfl
  have located : soleServer.planOf record =
      .ok (⟨"shared", .shared ⟨"http://server", ⟨"admin", "secret"⟩⟩⟩, site) := rfl
  -- The first half of the theorem is about the named requests, the second about the repetition.
  have compared :=
    (provision_idempotent soleServer filed_soleServer retentive server others
      [task, failedDeletion] "i1").1 record found
  have repeated :=
    (provision_idempotent soleServer filed_soleServer retentive server others [] "i1").2
      plainDraws plainDraws openProvision [failedDeletion]
  have made : (soleServer.carryOut retentive server task (retentive.blank, others)).1 =
      .ok .provisioned := rfl
  have kept : ∀ event ∈ soleServer.history retentive server [failedDeletion]
      (soleServer.carryOut retentive server task (retentive.blank, others)).2,
      ¬ event.Removes "i1" := by
    intro event member
    obtain rfl := List.mem_singleton.mp member
    rintro ⟨_, removed⟩
    cases removed
  obtain ⟨_, plan, chosen, usable, answers⟩ := compared
  rw [located] at usable
  cases usable
  refine ⟨made, (repeated made kept (Or.inl readsReliably_retentive)).2.2, ?_, ?_⟩
  · exact (answers plainDraws (namedProvision plainDraws.databaseName)).2.2.1
      ⟨rfl, rfl, rfl, rfl, site, rfl, Or.inr rfl⟩
  · refine (answers plainDraws (namedProvision "other")).2.2.2 ?_
    rintro ⟨_, _, _, _, wanted, asked, named⟩
    cases asked
    revert named
    decide

end GraphBroker.Broker
