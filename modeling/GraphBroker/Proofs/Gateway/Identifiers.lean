import GraphBroker.Proofs.Admin.World
import GraphBroker.Proofs.Broker.Presence
import GraphBroker.Proofs.Gateway.Admission
import GraphBroker.Proofs.Gateway.Segments

namespace GraphBroker.Gateway

open Dialogue Store Text

/-!
# Records under their identifiers

A record is kept under the identifier that the path of its request stands for, and it is
found again by every request whose path stands for the same one, however either is written.
-/

namespace Request

/-- A request with the login to the place of an instance, however its identifier is written. -/
structure ForInstance (request : Request) (broker : Broker) (method id : String) : Prop where
  method : request.method = method
  carries : request.Carries broker.login
  shows : ¬ IsBlank id
  placed :
    ∃ raw, Writes raw id ∧ pathOf request.target = "/v2/service_instances/" ++ raw

/-- A request with the login to the place of a binding, however its identifiers are written. -/
structure ForBinding (request : Request) (broker : Broker) (method id bindingId : String) :
    Prop where
  method : request.method = method
  carries : request.Carries broker.login
  shows : ¬ IsBlank id
  showsBinding : ¬ IsBlank bindingId
  placed :
    ∃ raw rawBinding, Writes raw id ∧ Writes rawBinding bindingId ∧
      pathOf request.target =
        "/v2/service_instances/" ++ raw ++ "/service_bindings/" ++ rawBinding

end Request

/-- An answer of success. -/
def Response.Succeeds (response : Response) : Prop :=
  200 ≤ response.status ∧ response.status < 300

theorem Response.succeeds_of_status
    {response : Response}
    (status : response.status = 201) :
    response.Succeeds := by
  rw [Succeeds, status]
  decide

/-- What comes of a request while the records are in memory: its answer, and the state after it. -/
def answerTo {τ : Type}
    (broker : Broker)
    (server : (question : AdminQuestion) → τ → question.Outcome × τ)
    (draws : Plan.Draws)
    (request : Request)
    (state : Memory × τ) :
    Response × (Memory × τ) :=
  (handle broker draws request).run (Broker.respond Memory.answer server) state

/-! ## What is asked for -/

section

variable {broker : Broker} {request : Request} {id bindingId : String}

/-- A PUT to the place of an instance provisions it if its body can be read. -/
theorem Request.ForInstance.pass_put
    (placed : request.ForInstance broker "PUT" id) :
    pass broker request =
      whenRead (request.read Api.ProvisionRequest.codec) (.provision id) := by
  obtain ⟨method, carries, shows, raw, writes, path⟩ := placed
  have identifies := writes.identifies shows
  have taken : takes (Route.serviceInstance raw).methods request.method = true := by
    simp [takes, Route.methods, method]
  rw [pass_of_taken (identifies.names path) carries taken]
  simp [dispatch, identifies.instanceId, withIds, method]

theorem Request.ForInstance.pass_get
    (placed : request.ForInstance broker "GET" id) :
    pass broker request = .admitted (.describe id) := by
  obtain ⟨method, carries, shows, raw, writes, path⟩ := placed
  exact pass_eq_admitted_iff.mpr
    ⟨carries, .describe (Or.inl method) path (writes.identifies shows)⟩

/-- A PUT to the place of a binding issues credentials if its body can be read. -/
theorem Request.ForBinding.pass_put
    (placed : request.ForBinding broker "PUT" id bindingId) :
    pass broker request =
      whenRead (request.read Api.BindRequest.codec) (.bind id bindingId) := by
  obtain ⟨method, carries, shows, showsBinding, raw, rawBinding, writes, writesBinding, path⟩ :=
    placed
  have identifies := writes.identifies shows
  have identifiesBinding := writesBinding.identifies showsBinding
  have taken : takes (Route.serviceBinding raw rawBinding).methods request.method = true := by
    simp [takes, Route.methods, method]
  have ids := bindingIds_eq_ok_iff.mpr ⟨identifies.instanceId, identifiesBinding.instanceId⟩
  rw [pass_of_taken (identifies.names_binding identifiesBinding path) carries taken]
  simp [dispatch, ids, withIds, method]

theorem Request.ForBinding.pass_delete
    (placed : request.ForBinding broker "DELETE" id bindingId) :
    pass broker request = .admitted (.unbind id bindingId) := by
  obtain ⟨method, carries, shows, showsBinding, raw, rawBinding, writes, writesBinding, path⟩ :=
    placed
  exact pass_eq_admitted_iff.mpr
    ⟨carries, .unbind method path (writes.identifies shows) (writesBinding.identifies showsBinding)⟩

end

/-! ## What comes of it -/

section

variable {τ : Type} {broker : Broker} {draws : Plan.Draws} {request : Request}
variable {server : (question : AdminQuestion) → τ → question.Outcome × τ} {state : Memory × τ}

/-- A request that is admitted comes to what its operation does. -/
theorem answerTo_of_admitted
    (server : (question : AdminQuestion) → τ → question.Outcome × τ)
    (draws : Plan.Draws)
    (state : Memory × τ)
    {operation : Broker.Operation}
    (admitted : pass broker request = .admitted operation) :
    let done := broker.carryOut Keeper.memory server ⟨draws, operation⟩ state
    (answerTo broker server draws request state).1.status = done.1.status ∧
      (answerTo broker server draws request state).2 = done.2 := by
  intro done
  have handled : handle broker draws request =
      (broker.perform draws operation).andThen fun answer =>
        .done (deliver request (.ofAnswer answer)) := by
    simp only [handle, admitted]
  have ending : answerTo broker server draws request state =
      (deliver request (.ofAnswer done.1), done.2) := by
    have ending := run_andThen (P := Broker.surroundings) (Broker.respond Memory.answer server)
      (broker.perform draws operation)
      (fun answer => .done (deliver request (.ofAnswer answer))) state
    rw [← handled] at ending
    exact ending
  rw [ending]
  refine ⟨(status_deliver _ _).trans ?_, rfl⟩
  cases done.1 <;> rfl

/-- A request that succeeds and needs a body has one that can be read. -/
theorem admitted_of_succeeds
    {value : Type}
    {read : Except BodyError value}
    {operation : value → Broker.Operation}
    (passage : pass broker request = whenRead read operation)
    (succeeds : (answerTo broker server draws request state).1.Succeeds) :
    ∃ given, pass broker request = .admitted (operation given) := by
  cases read with
  | ok given =>
      exact ⟨given, passage⟩
  | error error =>
      have handled : handle broker draws request =
          .done (deliver request (.error 400 error.message)) := by
        simp only [handle, passage, whenRead]
      have status : (answerTo broker server draws request state).1.status = 400 := by
        rw [answerTo, handled]
        exact status_deliver _ _
      have below := succeeds.2
      rw [status] at below
      exact absurd below (by decide)

/--
A request that is admitted takes a turn on the records, and what was recorded determines
the status of its answer.
-/
theorem turn_of_admitted
    (server : (question : AdminQuestion) → τ → question.Outcome × τ)
    (draws : Plan.Draws)
    {state : Memory × τ}
    {operation : Broker.Operation}
    (admitted : pass broker request = .admitted operation)
    (usable : Broker.Usable broker state.1) :
    let result := answerTo broker server draws request state
    ∃ calls answer,
      Broker.Turn broker draws state.1 operation calls answer result.2.1 ∧
        result.1.status = answer.status ∧
        Broker.Expected (Broker.Recorded state.1) (Broker.BindingRecorded state.1) operation
          answer.status := by
  intro result
  let task : Broker.Task := ⟨draws, operation⟩
  have course : Broker.Proceeding broker draws operation
      (Broker.storeCalls (broker.conversation Keeper.memory server task state))
      (broker.seen Keeper.memory server task state).calls
      (broker.seen Keeper.memory server task state).answer :=
    Broker.proceeding_of_yields (yields_exchanges _ _ state)
  have leads : Leads (P := storage) Exact state.1
      (Broker.storeCalls (broker.conversation Keeper.memory server task state))
      (broker.carryOut Keeper.memory server task state).2.1 :=
    Broker.leads_exact task state
  obtain ⟨status, after⟩ := answerTo_of_admitted server draws state admitted
  rw [← after] at leads
  have turn := Broker.turn_of_proceeding course (leads.weaken fun _ _ {_ _} => Exact.allows)
  exact ⟨_, _, turn, status, Broker.expected_of_proceeding course leads usable⟩

/-- What a successful PUT to the place of an instance that is not there records. -/
theorem Request.ForInstance.recorded
    {id : String}
    (placed : request.ForInstance broker "PUT" id)
    (usable : Broker.Usable broker state.1)
    (absent : state.1.instance? id = none)
    (succeeds : (answerTo broker server draws request state).1.Succeeds) :
    let after := (answerTo broker server draws request state).2.1
    Broker.Usable broker after ∧
      (∃ record : ServiceInstance, record.guid = id ∧
        ∀ other, after.instance? other = if other = id then some record else state.1.instance? other) ∧
      ∀ other otherBinding, after.binding? other otherBinding = state.1.binding? other otherBinding := by
  intro after
  obtain ⟨given, admitted⟩ := admitted_of_succeeds placed.pass_put succeeds
  obtain ⟨calls, answer, turn, status, -, fresh⟩ := turn_of_admitted server draws admitted usable
  have new : answer.status = 201 :=
    (Broker.Answer.status_of_successful (status ▸ succeeds.2)).resolve_left
      (fresh (not_not.mpr absent))
  obtain ⟨record, guid, instances, bindings⟩ := Broker.recorded_of_provision turn new
  exact ⟨Broker.usable_of_turn turn usable, ⟨record, guid, instances⟩, bindings⟩

/-- A GET of the place of an instance is answered 200 if it is recorded, and 404 if not. -/
theorem Request.ForInstance.found
    (server : (question : AdminQuestion) → τ → question.Outcome × τ)
    (draws : Plan.Draws)
    {id : String}
    (placed : request.ForInstance broker "GET" id)
    (usable : Broker.Usable broker state.1) :
    (Broker.Recorded state.1 id → (answerTo broker server draws request state).1.status = 200) ∧
      (¬ Broker.Recorded state.1 id →
        (answerTo broker server draws request state).1.status = 404) := by
  obtain ⟨-, answer, -, status, expected⟩ := turn_of_admitted server draws placed.pass_get usable
  rw [status]
  exact expected

/-- What a successful PUT to the place of a binding that is not there records. -/
theorem Request.ForBinding.recorded
    {id bindingId : String}
    (placed : request.ForBinding broker "PUT" id bindingId)
    (usable : Broker.Usable broker state.1)
    (absent : state.1.binding? id bindingId = none)
    (succeeds : (answerTo broker server draws request state).1.Succeeds) :
    let after := (answerTo broker server draws request state).2.1
    Broker.Usable broker after ∧
      Broker.Recorded state.1 id ∧
      (∃ binding : ServiceBinding, binding.guid = bindingId ∧
        ∀ other otherBinding,
          after.binding? other otherBinding =
            if other = id ∧ otherBinding = bindingId then some binding
            else state.1.binding? other otherBinding) ∧
      ∀ other, after.instance? other = state.1.instance? other := by
  intro after
  obtain ⟨given, admitted⟩ := admitted_of_succeeds placed.pass_put succeeds
  obtain ⟨calls, answer, turn, status, missing, -, fresh⟩ :=
    turn_of_admitted server draws admitted usable
  have below : answer.status < 300 := status ▸ succeeds.2
  have there : Broker.Recorded state.1 id := by
    intro nowhere
    rw [missing (not_not.mpr nowhere)] at below
    exact absurd below (by decide)
  have new : answer.status = 201 :=
    (Broker.Answer.status_of_successful below).resolve_left (fresh (not_not.mpr absent))
  obtain ⟨binding, guid, bindings, instances⟩ := Broker.recorded_of_bind turn new
  exact ⟨Broker.usable_of_turn turn usable, there, ⟨binding, guid, bindings⟩, instances⟩

/-- A DELETE of the place of a binding is answered 410 if it or its instance is not recorded. -/
theorem Request.ForBinding.gone_iff
    {id bindingId : String}
    (placed : request.ForBinding broker "DELETE" id bindingId)
    (usable : Broker.Usable broker state.1) :
    (answerTo broker server draws request state).1.status = 410 ↔
      ¬ Broker.Recorded state.1 id ∨ ¬ Broker.BindingRecorded state.1 id bindingId := by
  obtain ⟨-, answer, -, status, expected⟩ := turn_of_admitted server draws placed.pass_delete usable
  rw [status]
  exact expected

/--
Where one instance and no binding is recorded, credentials are issued for that instance only.
They are recorded under the identifiers of both, and a DELETE finds them under no others.
-/
theorem Request.ForBinding.keyed
    {id instanceId bindingId : String}
    (placed : request.ForBinding broker "PUT" instanceId bindingId)
    (usable : Broker.Usable broker state.1)
    (recorded : ∀ other, Broker.Recorded state.1 other ↔ other = id)
    (unbound : ∀ other otherBinding, state.1.binding? other otherBinding = none)
    (succeeds : (answerTo broker server draws request state).1.Succeeds) :
    let bound := (answerTo broker server draws request state).2
    instanceId = id ∧
      (∃ binding : ServiceBinding, binding.guid = bindingId ∧
        ∀ other otherBinding,
          bound.1.binding? other otherBinding =
            if other = id ∧ otherBinding = bindingId then some binding else none) ∧
      ∀ {unbind : Request} {other otherBinding : String} (again : Plan.Draws),
        unbind.ForBinding broker "DELETE" other otherBinding →
          ((answerTo broker server again unbind bound).1.status = 410 ↔
            other ≠ id ∨ otherBinding ≠ bindingId) := by
  intro bound
  obtain ⟨stillUsable, there, ⟨binding, guid, held⟩, kept⟩ :=
    placed.recorded usable (unbound instanceId bindingId) succeeds
  obtain rfl := (recorded instanceId).mp there
  have bindings (other otherBinding : String) :
      bound.1.binding? other otherBinding =
        if other = instanceId ∧ otherBinding = bindingId then some binding else none := by
    rw [← unbound other otherBinding]
    exact held other otherBinding
  refine ⟨rfl, ⟨binding, guid, bindings⟩, ?_⟩
  intro unbind other otherBinding again taken
  have instanceThere : Broker.Recorded bound.1 other ↔ other = instanceId := by
    rw [Broker.Recorded, kept other]
    exact recorded other
  have bindingThere :
      Broker.BindingRecorded bound.1 other otherBinding ↔
        other = instanceId ∧ otherBinding = bindingId := by
    simp [bindings]
  calc
    (answerTo broker server again unbind bound).1.status = 410 ↔
        ¬ Broker.Recorded bound.1 other ∨ ¬ Broker.BindingRecorded bound.1 other otherBinding :=
      taken.gone_iff stillUsable
    _ ↔ ¬ other = instanceId ∨ ¬ (other = instanceId ∧ otherBinding = bindingId) := by
      rw [instanceThere, bindingThere]
    _ ↔ other ≠ instanceId ∨ otherBinding ≠ bindingId := by
      rw [not_and_or, ← or_assoc, or_self]

end

/--
Records are kept under the identifiers that the paths of their requests stand for, and under no
others.  After a successful PUT of an instance to an empty store, a GET finds it if and only if
its path stands for the same identifier, and credentials can be issued for no other instance.
After a successful PUT of a binding, its DELETE finds nothing if and only if one of the two
identifiers of its path is another.
-/
theorem records_keyed_by_identifiers
    {τ : Type}
    (broker : Broker)
    (server : (question : AdminQuestion) → τ → question.Outcome × τ)
    (others : τ)
    (draws : Plan.Draws)
    {put : Request}
    {id : String}
    (placed : put.ForInstance broker "PUT" id)
    (succeeds : (answerTo broker server draws put (Memory.empty, others)).1.Succeeds) :
    let provisioned := (answerTo broker server draws put (Memory.empty, others)).2
    (∃ record : ServiceInstance, record.guid = id ∧
      ∀ other, provisioned.1.instance? other = if other = id then some record else none) ∧
    (∀ {get : Request} {other : String} (again : Plan.Draws),
      get.ForInstance broker "GET" other →
        (answerTo broker server again get provisioned).1.status =
          if other = id then 200 else 404) ∧
    ∀ {bind : Request} {instanceId bindingId : String} (issuing : Plan.Draws),
      bind.ForBinding broker "PUT" instanceId bindingId →
      (answerTo broker server issuing bind provisioned).1.Succeeds →
        let bound := (answerTo broker server issuing bind provisioned).2
        instanceId = id ∧
        (∃ binding : ServiceBinding, binding.guid = bindingId ∧
          ∀ other otherBinding,
            bound.1.binding? other otherBinding =
              if other = id ∧ otherBinding = bindingId then some binding else none) ∧
        ∀ {unbind : Request} {other otherBinding : String} (again : Plan.Draws),
          unbind.ForBinding broker "DELETE" other otherBinding →
            ((answerTo broker server again unbind bound).1.status = 410 ↔
              other ≠ id ∨ otherBinding ≠ bindingId) := by
  intro provisioned
  have start : Broker.Usable broker Memory.empty := Broker.Each.empty
  obtain ⟨usable, ⟨record, guid, instances⟩, bindings⟩ := placed.recorded start rfl succeeds
  have recorded (other : String) : Broker.Recorded provisioned.1 other ↔ other = id := by
    simp [provisioned, instances]
  refine ⟨⟨record, guid, instances⟩, ?_, ?_⟩
  · intro get other again looked
    obtain ⟨found, missed⟩ := looked.found server again usable
    by_cases same : other = id
    · rw [if_pos same]
      exact found ((recorded other).mpr same)
    · rw [if_neg same]
      exact missed (fun there => same ((recorded other).mp there))
  · intro bind instanceId bindingId issuing asked issued
    exact asked.keyed usable recorded bindings issued

/-! ## An identifier written in two ways -/

/-- A request of a platform that has the login of a small broker. -/
def platformRequest (method target body : String) : Request :=
  ⟨method, target,
    [("Authorization", Utf8.encode "Basic cGxhdGZvcm06c2VjcmV0"),
     ("Content-Type", Utf8.encode "application/json")],
    Utf8.encode body⟩

theorem carries_platformRequest
    (method target body : String) :
    (platformRequest method target body).Carries Broker.soleServer.login := by
  refine ⟨⟨Utf8.encode "Basic cGxhdGZvcm06c2VjcmV0", ?_, ?_⟩, by decide⟩
  · simp [platformRequest, Request.values]
  · exact ⟨Utf8.encode "Basic", [0x20], by decide +kernel, by decide, by simp, by simp⟩

/-- An identifier that cannot stand in a path as it is. -/
def slashed : String := "é/1"

theorem not_isBlank_slashed :
    ¬ IsBlank slashed := by
  decide

theorem bytes_slashed :
    Utf8.encode slashed = [0xC3, 0xA9, 0x2F, 0x31] := by
  decide +kernel

/-- One way to write the identifier leaves its last character as it is. -/
theorem writes_slashed :
    Writes "%c3%A9%2f1" slashed := by
  have last : Spells ['1'] [0x31] := .plain (by decide) .nil
  rw [Writes, bytes_slashed]
  exact .escaped (Or.inr (by decide)) (Or.inl (by decide))
    (.escaped (Or.inl (by decide)) (Or.inl (by decide))
      (.escaped (Or.inl (by decide)) (Or.inr (by decide)) last))

/-- Another way escapes all of them, in other letter cases. -/
theorem writes_slashed_escaped :
    Writes "%C3%a9%2F%31" slashed := by
  rw [Writes, bytes_slashed]
  exact .escaped (Or.inl (by decide)) (Or.inl (by decide))
    (.escaped (Or.inr (by decide)) (Or.inl (by decide))
      (.escaped (Or.inl (by decide)) (Or.inl (by decide))
        (.escaped (Or.inl (by decide)) (Or.inl (by decide)) .nil)))

/-- A request to provision the instance with that identifier. -/
def putSlashed : Request :=
  platformRequest "PUT" "/v2/service_instances/%c3%A9%2f1"
    "\x7b\"service_id\":\"s\",\"plan_id\":\"shared\",\"organization_guid\":\"o\",\"space_guid\":\"p\"\x7d"

/-- A request to look the instance up, whose path is written in another way. -/
def getSlashed : Request :=
  platformRequest "GET" "/v2/service_instances/%C3%a9%2F%31" ""

/-- A request to issue credentials for the instance. -/
def putBinding : Request :=
  platformRequest "PUT" "/v2/service_instances/%C3%a9%2F%31/service_bindings/b"
    "\x7b\"service_id\":\"s\",\"plan_id\":\"shared\"\x7d"

/-- A request to take the credentials back, whose path is written in another way. -/
def deleteBinding : Request :=
  platformRequest "DELETE" "/v2/service_instances/%c3%A9%2f1/service_bindings/%62" ""

/-- Servers that have no users. -/
def emptyServers : World × Unit :=
  (fun _ => ⟨[], []⟩, ())

/-- An instance is found and its binding is taken away, however their identifiers are written. -/
theorem found_however_written :
    let answering := answerTo Broker.soleServer (World.answer World.unfailing) Broker.plainDraws
    let provisioned := answering putSlashed (Memory.empty, emptyServers)
    let bound := answering putBinding provisioned.2
    putSlashed.ForInstance Broker.soleServer "PUT" slashed ∧ provisioned.1.Succeeds ∧
      (answering getSlashed provisioned.2).1.status = 200 ∧ bound.1.Succeeds ∧
      (answering deleteBinding bound.2).1.status ≠ 410 := by
  -- The answers are named in the statement only, so that no step has to evaluate them.
  dsimp only
  have placed : putSlashed.ForInstance Broker.soleServer "PUT" slashed :=
    ⟨rfl, carries_platformRequest _ _ _, not_isBlank_slashed, _, writes_slashed, by decide +kernel⟩
  have looked : getSlashed.ForInstance Broker.soleServer "GET" slashed :=
    ⟨rfl, carries_platformRequest _ _ _, not_isBlank_slashed, _, writes_slashed_escaped,
      by decide +kernel⟩
  have shows : ¬ IsBlank "b" := by decide
  have written : Writes "b" "b" := by
    have bytes : Utf8.encode "b" = [0x62] := by decide +kernel
    rw [Writes, bytes]
    exact .plain (by decide) .nil
  have asked : putBinding.ForBinding Broker.soleServer "PUT" slashed "b" :=
    ⟨rfl, carries_platformRequest _ _ _, not_isBlank_slashed, shows, _, _,
      writes_slashed_escaped, written, by decide +kernel⟩
  have taken : deleteBinding.ForBinding Broker.soleServer "DELETE" slashed "b" :=
    ⟨rfl, carries_platformRequest _ _ _, not_isBlank_slashed, shows, _, _,
      writes_slashed, writes_escaped "b", by decide +kernel⟩
  have created : (answerTo Broker.soleServer (World.answer World.unfailing) Broker.plainDraws
      putSlashed (Memory.empty, emptyServers)).1.Succeeds :=
    Response.succeeds_of_status (by decide +kernel)
  obtain ⟨-, found, keyed⟩ :=
    records_keyed_by_identifiers Broker.soleServer (World.answer World.unfailing)
      emptyServers Broker.plainDraws placed created
  have issued : (answerTo Broker.soleServer (World.answer World.unfailing) Broker.plainDraws putBinding
      (answerTo Broker.soleServer (World.answer World.unfailing) Broker.plainDraws
        putSlashed (Memory.empty, emptyServers)).2).1.Succeeds :=
    Response.succeeds_of_status (by decide +kernel)
  obtain ⟨-, -, gone⟩ := keyed Broker.plainDraws asked issued
  refine ⟨placed, created, ?_, issued, ?_⟩
  · exact (found Broker.plainDraws looked).trans (if_pos rfl)
  · intro missed
    rcases (gone Broker.plainDraws taken).mp missed with other | other
    · exact other rfl
    · exact other rfl

end GraphBroker.Gateway
