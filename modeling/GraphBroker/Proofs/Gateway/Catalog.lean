import GraphBroker.Proofs.Broker.Idempotence
import GraphBroker.Proofs.Gateway.Admission
import GraphBroker.Proofs.Plan.Offer

namespace GraphBroker

open Dialogue Store Text

/-!
# The catalog and what can be provisioned

The catalog lists the plans of the configuration, each once, and stays as it is whatever
the broker does.  A plan can be asked for if and only if the catalog lists it: a request
for any other is turned down as naming no known plan, and no other request is.
-/

/-- The identifiers of the plans in a catalog. -/
def Api.Catalog.planIds (catalog : Api.Catalog) : List String :=
  catalog.services.flatMap fun service => service.plans.map Api.CatalogPlan.id

namespace Broker

/-- An answer turns a request down since it names no known plan. -/
def Answer.DisownsPlan (answer : Answer) (planId : String) : Prop :=
  ∃ error, answer = .error error ∧ error.status = 400 ∧
    error.message = planId ++ " is not a known plan"

theorem getLast?_append_of_ne
    {text other : String}
    (ending : other.toList ≠ []) :
    (text ++ other).toList.getLast? = other.toList.getLast? := by
  rw [String.toList_append, List.getLast?_append_of_ne_nil _ ending]

/-- What a plan turns down is not turned down as an unknown plan. -/
theorem planMessage_ne_unknown
    {error : Plan.Error}
    (refused : error.status = 400)
    (planId : String) :
    error.message ≠ planId ++ " is not a known plan" := by
  intro same
  have last : error.message.toList.getLast? = some 'n' := by
    rw [same, getLast?_append_of_ne (by decide)]
    decide
  cases error with
  | malformedParameters | malformedPayload | urlRequired | passwordRequired =>
      exact absurd last (by decide)
  | server | userCheckFailed | userExists | userNotCreated | accessNotGranted
  | unreadableInstance | unreadableBinding =>
      simp [Plan.Error.status] at refused

/-- The store says of an instance that it has no record of it. -/
def Unrecorded (keeper : Keeper) (records : keeper.State) (id : String) : Prop :=
  ∃ error, (keeper.answer (.getInstance id) records).1 = .error error ∧ error.isNotFound = true

section

variable {broker : Broker} {keeper : Keeper}

/-- A request for an instance that is not on record is disowned if its plan is not offered. -/
theorem disowns_of_provisioning
    {draws : Plan.Draws}
    {id : String}
    {request : Api.ProvisionRequest}
    {stores : List (Exchange storage)}
    {calls : List (Exchange administration)}
    {answer : Answer}
    {before after : keeper.State}
    (course : Provisioning broker draws id request stores calls answer)
    (leads : Leads (P := storage) (Replies keeper) before stores after)
    (unrecorded : Unrecorded keeper before id) :
    answer.DisownsPlan request.planId ↔ broker.plans.find? request.planId = none := by
  obtain ⟨missed, reply, absent⟩ := unrecorded
  have accepted {plan : Plan} (known : broker.plans.find? request.planId = some plan)
      (otherwise : ¬ answer.DisownsPlan request.planId) :
      answer.DisownsPlan request.planId ↔ broker.plans.find? request.planId = none := by
    simp [otherwise, known]
  cases course with
  | lookUpFailed failed =>
      obtain ⟨same, _⟩ := replied_first leads
      rw [reply] at same
      cases same
      rw [absent] at failed
      cases failed
  | unusable | same | different =>
      obtain ⟨same, _⟩ := replied_first leads
      rw [reply] at same
      cases same
  | unknownPlan _ unknown =>
      exact ⟨fun _ => unknown, fun _ => ⟨_, rfl, rfl, rfl⟩⟩
  | @notCreated _ plan calls failure _ known _ =>
      refine accepted known ?_
      rintro ⟨error, same, refused, words⟩
      cases same
      exact planMessage_ne_unknown refused _ words
  | notRecorded _ known =>
      refine accepted known ?_
      rintro ⟨error, same, refused, _⟩
      cases same
      simp [Error.status] at refused
  | provisioned _ known =>
      refine accepted known ?_
      rintro ⟨error, same, _⟩
      cases same

/-- Provisioning what is not on record is disowned if the plan asked for is not offered. -/
theorem disowns_of_task
    {τ : Type}
    (server : (question : AdminQuestion) → τ → question.Outcome × τ)
    (draws : Plan.Draws)
    (request : Api.ProvisionRequest)
    {state : keeper.State × τ}
    {id : String}
    (unrecorded : Unrecorded keeper state.1 id) :
    (broker.carryOut keeper server ⟨draws, .provision id request⟩ state).1.DisownsPlan
        request.planId ↔
      broker.plans.find? request.planId = none := by
  let task : Task := ⟨draws, .provision id request⟩
  have course : Provisioning broker draws id request
      (storeCalls (broker.conversation keeper server task state))
      (broker.seen keeper server task state).calls
      (broker.carryOut keeper server task state).1 :=
    proceeding_of_task task state
  exact disowns_of_provisioning course (leads_replies task state) unrecorded

end

/-- The catalog of a broker lists the plans of its configuration. -/
theorem mem_planIds_iff
    {broker : Broker}
    {settings : List PlanSetting}
    (presents : broker.plans.Presents settings)
    (planId : String) :
    planId ∈ broker.catalog.planIds ↔ planId ∈ settings.map PlanSetting.id := by
  have listed : broker.catalog.planIds =
      broker.plans.catalogEntries.map Api.CatalogPlan.id := by
    simp [Api.Catalog.planIds, catalog]
  have same := (presents.catalogEntries_perm.map Api.CatalogPlan.id).mem_iff (a := planId)
  rwa [← listed, List.map_map] at same

end Broker

namespace Gateway

/-- A request for the catalog is answered with the catalog, and nobody is asked. -/
theorem handle_catalog
    {broker : Broker}
    {request : Request}
    (draws : Plan.Draws)
    (carries : request.Carries broker.login)
    (path : pathOf request.target = "/v2/catalog")
    (method : request.method = "GET") :
    handle broker draws request = .done (.json 200 (Api.Catalog.codec.write broker.catalog)) := by
  have named : Route.catalog.Names (pathOf request.target) := path ▸ .catalog
  have taken : takes Route.catalog.methods request.method = true := by
    rw [method]
    decide
  rw [handle, pass_of_taken named carries taken, dispatch]
  simp [deliver, method]

/--
The plans of a catalog are those of the configuration, and those that can be provisioned.
A configuration is taken if every entry offers a plan and no two have one identifier, and
otherwise the first entry is blamed that does not go with those before it.  The catalog
lists the plan of each entry once, and each is found under its identifier.  Whatever the
broker does, with whatever store and servers, it answers with the same catalog, and a
request for an instance that is not on record is turned down as naming no known plan if
and only if the catalog does not list the plan.
-/
theorem catalog_lists_what_can_be_provisioned
    (settings : List PlanSetting) :
    ((∃ plans, Registry.ofSettings settings = .ok plans) ↔
      (∀ setting ∈ settings, ∃ plan, setting.Offers plan) ∧
        (settings.map PlanSetting.id).Nodup) ∧
    (∀ error, Registry.ofSettings settings = .error error ↔ Faulty settings error) ∧
    ∀ broker : Broker, Registry.ofSettings settings = .ok broker.plans →
      (∃ service, broker.catalog.services = [service] ∧
        service.plans.Perm (settings.map PlanSetting.catalogEntry)) ∧
      (∀ planId plan,
        broker.plans.find? planId = some plan ↔
          ∃ setting ∈ settings, setting.id = planId ∧ setting.Offers plan) ∧
      ∀ (keeper : Keeper) (τ : Type)
          (server : (question : AdminQuestion) → τ → question.Outcome × τ)
          (tasks : List Broker.Task) (start : keeper.State × τ),
        let state := broker.afterwards keeper server tasks start
        (∀ draws request, request.Carries broker.login →
          pathOf request.target = "/v2/catalog" → request.method = "GET" →
          (handle broker draws request).run (Broker.respond keeper.answer server) state =
            (.json 200 (Api.Catalog.codec.write broker.catalog), state)) ∧
        ∀ draws id request, Broker.Unrecorded keeper state.1 id →
          ((broker.carryOut keeper server ⟨draws, .provision id request⟩ state).1.DisownsPlan
              request.planId ↔
            request.planId ∉ broker.catalog.planIds) := by
  refine ⟨ofSettings_eq_ok_iff.trans ⟨fun fine => ⟨fine.valid, fine.distinct⟩,
    fun fine => ⟨fine.1, fine.2⟩⟩, fun error => ofSettings_eq_error_iff, ?_⟩
  intro broker built
  have presents := presents_of_ofSettings built
  refine ⟨⟨_, rfl, presents.catalogEntries_perm⟩, fun planId plan => presents.found, ?_⟩
  intro keeper τ server tasks start state
  refine ⟨fun draws request carries path method => ?_, fun draws id request unrecorded => ?_⟩
  · rw [handle_catalog draws carries path method]
    rfl
  · rw [Broker.disowns_of_task server draws request unrecorded, Broker.mem_planIds_iff presents,
      ← presents.contains_iff, Keyed.contains, Bool.not_eq_true, Option.isSome_eq_false_iff,
      Option.isNone_iff_eq_none]

/-- A plan of each kind. -/
def bothPlans : List PlanSetting :=
  [⟨"perinstance", "own", .object [("note", .text "nothing to set")]⟩,
   ⟨"shared_database_plan", "shared",
     .object
       [("admin_password", .text "secret"), ("admin_username", .text "admin"),
        ("stardog_url", .text "http://server")]⟩]

/-- An instance can be asked for by a plan that is listed, and not by another. -/
theorem catalog_of_bothPlans :
    let request := catalogRequest (Utf8.encode "bAsIC  cGxhdGZvcm06c2VjcmV0")
    let provisioning (planId : String) : Broker.Task :=
      ⟨Broker.plainDraws, .provision "i1" ⟨"service", planId, "org", "space", .null⟩⟩
    ∃ broker : Broker,
      let state := broker.afterwards .memory Rehearsal.answer
        [⟨Broker.plainDraws, .describe "i1"⟩] (Memory.empty, .start)
      let answerTo (planId : String) : Broker.Answer :=
        (broker.carryOut .memory Rehearsal.answer (provisioning planId) state).1
      Registry.ofSettings bothPlans = .ok broker.plans ∧
        request.Carries broker.login ∧
        Broker.Unrecorded .memory state.1 "i1" ∧
        (handle broker Broker.plainDraws request).run
            (Broker.respond Keeper.memory.answer Rehearsal.answer) state =
          (.json 200 (Api.Catalog.codec.write broker.catalog), state) ∧
        "own" ∈ broker.catalog.planIds ∧ ¬ (answerTo "own").DisownsPlan "own" ∧
        "other" ∉ broker.catalog.planIds ∧ (answerTo "other").DisownsPlan "other" := by
  intro request provisioning
  have valid : ∀ setting ∈ bothPlans, ∃ plan, setting.Offers plan := by
    intro setting inside
    rcases List.mem_cons.mp inside with rfl | last
    · refine ⟨_, .perInstance rfl (.table fun member inside => ?_)⟩
      rw [List.mem_singleton.mp inside]
      exact ⟨_, rfl⟩
    · rw [List.mem_singleton.mp last]
      exact ⟨_, .shared rfl (.table rfl rfl rfl)⟩
  have ⟨taken, _, offered⟩ := catalog_lists_what_can_be_provisioned bothPlans
  obtain ⟨plans, built⟩ := taken.mpr ⟨valid, by decide⟩
  let broker : Broker := ⟨"broker", plans, Broker.soleServer.login⟩
  have presented : request.Presents Broker.soleServer.login :=
    presents_catalogRequest
      ⟨Utf8.encode "bAsIC", [0x20, 0x20], by decide +kernel, by decide, by simp, by simp⟩
  have carries : request.Carries Broker.soleServer.login := ⟨presented, by decide⟩
  have path : pathOf request.target = "/v2/catalog" := by decide
  obtain ⟨_, _, throughout⟩ := offered broker built
  obtain ⟨answered, disowned⟩ := throughout .memory _ Rehearsal.answer
    [⟨Broker.plainDraws, .describe "i1"⟩] (Memory.empty, .start)
  have unrecorded : Broker.Unrecorded .memory Memory.empty "i1" := ⟨_, rfl, rfl⟩
  have listed (planId : String) :
      planId ∈ broker.catalog.planIds ↔ planId ∈ bothPlans.map PlanSetting.id :=
    Broker.mem_planIds_iff (presents_of_ofSettings built) planId
  have own : "own" ∈ broker.catalog.planIds := (listed "own").mpr (by decide)
  have other : "other" ∉ broker.catalog.planIds := mt (listed "other").mp (by decide)
  refine ⟨broker, built, carries, unrecorded, answered _ request carries path rfl, own, ?_, other, ?_⟩
  · exact fun disowns => (disowned _ "i1" _ unrecorded).mp disowns own
  · exact (disowned _ "i1" _ unrecorded).mpr other

end Gateway

end GraphBroker
