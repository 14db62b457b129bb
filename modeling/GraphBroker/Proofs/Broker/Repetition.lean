import GraphBroker.Proofs.Admin.World
import GraphBroker.Proofs.Broker.Presence

namespace GraphBroker.Broker

open Store Plan

/-!
# Requests that arrive twice

A platform that does not hear of an answer sends its request again.  Where a
binding has been made, the repetition makes nothing and changes nothing: it is
compared with the binding on record.  The comparison is between the request as it
came and the credentials as they were issued, so that a name or a password which
the caller left open is never found again.
-/

/-- Parameters choose both the name and the password of a user. -/
def choosesLogin (parameters : Json) : Bool :=
  match project LoginChoice.codec .blank parameters with
  | .ok choice => !choice.username.isEmpty && !choice.password.isEmpty
  | .error _ => false

/-- An operation leaves a binding in place: it takes neither the binding nor its instance away. -/
def Operation.Leaves (id bindingId : String) : Operation → Prop
  | .deprovision other => other ≠ id
  | .unbind other otherBinding => ¬ (other = id ∧ otherBinding = bindingId)
  | _ => True

/-! ## What is compared -/

/-- A text with a fallback comes to the text itself exactly when it is not empty. -/
theorem eq_orElse_iff
    (text : String)
    {fallback : String}
    (named : fallback ≠ "") :
    text = orElse text fallback ↔ text.isEmpty = false := by
  unfold orElse
  cases blank : text.isEmpty with
  | true =>
      have isBlank : text = "" := String.isEmpty_iff.mp blank
      simp [isBlank, Ne.symm named]
  | false =>
      simp

/-- Parameters ask for the credentials that were issued for them if nothing was left open. -/
theorem sameCredentials_of_chosen
    {site : Site}
    {draws : Draws}
    {parameters : Json}
    {credentials : Credentials}
    (chosen : site.Chooses draws parameters credentials)
    (bindingId : String) :
    sameCredentials ⟨bindingId, credentials.payload⟩ parameters = choosesLogin parameters := by
  unfold Site.Chooses at chosen
  cases read : project LoginChoice.codec .blank parameters with
  | error error =>
      rw [read] at chosen
      cases chosen
  | ok choice =>
      rw [read] at chosen
      cases chosen
      have username := eq_orElse_iff choice.username draws.userName_ne_empty
      have password := eq_orElse_iff choice.password draws.userPassword_ne_empty
      simp only [sameCredentials, choosesLogin, read, Credentials.project_payload,
        Site.credentials]
      rw [Bool.eq_iff_iff]
      simp only [Bool.and_eq_true, beq_iff_eq, Bool.not_eq_eq_eq_not, Bool.not_true]
      exact and_congr username password

/-! ## What a repetition finds -/

section

variable {broker : Broker} {draws : Draws} {id bindingId : String} {request : Api.BindRequest}
variable {stores : List (Exchange storage)} {calls : List (Exchange administration)}
variable {answer : Answer} {before after : Memory}

/-- Binding looks single records up and never lists them. -/
theorem single_of_binding
    (course : Binding broker draws id bindingId request stores calls answer) :
    ∀ exchange ∈ stores, Call.lists exchange.question = false := by
  cases course <;> simp [Call.lists]

/-- A request for a binding on record is compared with it, and nothing else is done. -/
theorem compared_of_held
    {record : ServiceInstance}
    {plan : Plan}
    {site : Site}
    {binding : ServiceBinding}
    (course : Binding broker draws id bindingId request stores calls answer)
    (leads : Leads (P := storage) Faithful before stores after)
    (recorded : before.instance? id = some record)
    (usable : broker.planOf record = .ok (plan, site))
    (held : before.binding? id bindingId = some binding) :
    calls = [] ∧ after = before ∧
      answer =
        if sameCredentials binding request.parameters then .ok (.alreadyBound binding.payload)
        else .error (.conflict bindingId) := by
  cases course with
  | lookUpFailed | missing =>
      obtain ⟨impossible, _⟩ := Faithful.found_first leads recorded
      cases impossible
  | unusable unusable =>
      obtain ⟨same, _⟩ := Faithful.found_first leads recorded
      cases same
      rw [usable] at unusable
      cases unusable
  | bindingLookUpFailed | notIssued | notRecorded | bound =>
      obtain ⟨_, next⟩ := Faithful.found_first leads recorded
      have impossible := (Faithful.found_next next).1 binding held
      cases impossible
  | same located fitting | different located fitting =>
      obtain ⟨_, next⟩ := Faithful.found_first leads recorded
      obtain ⟨found, _, unchanged⟩ := Faithful.found_next next
      cases found binding held
      obtain rfl : after = before := unchanged
      simp [fitting]

/-- The same where nothing that is asked of the store fails. -/
theorem compared_of_binding
    {record : ServiceInstance}
    {plan : Plan}
    {site : Site}
    {binding : ServiceBinding}
    (course : Binding broker draws id bindingId request stores calls answer)
    (leads : Leads (P := storage) Exact before stores after)
    (recorded : before.instance? id = some record)
    (usable : broker.planOf record = .ok (plan, site))
    (held : before.binding? id bindingId = some binding) :
    calls = [] ∧ after = before ∧
      answer =
        if sameCredentials binding request.parameters then .ok (.alreadyBound binding.payload)
        else .error (.conflict bindingId) :=
  compared_of_held course (leads.weaken fun _ _ => Faithful.of_exact) recorded usable held

/-- What leaves a binding in place keeps it on record, and its instance. -/
theorem kept_of_turn
    {operation : Operation}
    {record : ServiceInstance}
    {binding : ServiceBinding}
    (turn : Turn broker draws before operation calls answer after)
    (leaving : operation.Leaves id bindingId)
    (recorded : before.instance? id = some record)
    (held : before.binding? id bindingId = some binding) :
    after.instance? id = some record ∧ after.binding? id bindingId = some binding := by
  cases turn with
  | idle | notCreated | instanceNotRecorded | notRemoved | instanceNotErased | notIssued
  | bindingNotRecorded =>
      exact ⟨recorded, held⟩
  | @provisioned other _ _ _ _ _ known creating added =>
      have elsewhere : id ≠ other := by
        rintro rfl
        rw [added.absent_of_added_instance] at recorded
        cases recorded
      rw [added.instance?_of_ok, added.binding?_of_ok]
      simp [Call.instanceAfter, Call.bindingAfter, elsewhere, recorded, held]
  | deprovisioned _ usable listed sweeping removing erased =>
      rw [erased.instance?_of_ok, erased.binding?_of_ok]
      simp [Call.instanceAfter, Call.bindingAfter, Ne.symm leaving, recorded, held]
  | @bound other otherBinding _ _ _ _ _ _ _ _ usable issuing added =>
      have elsewhere : ¬ (id = other ∧ bindingId = otherBinding) := by
        rintro ⟨rfl, rfl⟩
        rw [added.unbound_of_added_binding] at held
        cases held
      rw [added.instance?_of_ok, added.binding?_of_ok]
      simp [Call.instanceAfter, Call.bindingAfter, elsewhere, recorded, held]
  | @notRevoked other otherBinding _ _ _ _ _ _ _ _ usable _ erased revoking
  | @unbound other otherBinding _ _ _ _ _ _ _ usable _ erased revoking =>
      have elsewhere : ¬ (id = other ∧ bindingId = otherBinding) :=
        fun here => leaving ⟨here.1.symm, here.2.symm⟩
      rw [erased.instance?_of_ok, erased.binding?_of_ok]
      simp [Call.instanceAfter, Call.bindingAfter, elsewhere, recorded, held]

/-- Credentials that were issued are on record, beneath an instance that the broker can use. -/
theorem recorded_of_turn
    {payload : Json}
    (turn :
      Turn broker draws before (.bind id bindingId request) calls (.ok (.bound payload)) after) :
    ∃ record plan site credentials,
      broker.planOf record = .ok (plan, site) ∧
        site.Chooses draws request.parameters credentials ∧
        payload = credentials.payload ∧
        after.instance? id = some record ∧
        after.binding? id bindingId = some ⟨bindingId, payload⟩ := by
  cases turn with
  | idle quiet =>
      cases quiet
  | bound recorded usable issuing added =>
      cases issuing with
      | issued chosen =>
          refine ⟨_, _, _, _, usable, chosen, rfl, ?_, ?_⟩
          · rw [added.instance?_of_ok]
            exact recorded
          · rw [added.binding?_of_ok]
            simp [Call.bindingAfter]

end

/-! ## Histories -/

section

variable {τ : Type} {broker : Broker} {keeper : Keeper} {id bindingId : String}
variable {server : (question : AdminQuestion) → τ → question.Outcome × τ}

/-- What is asked of a store that never fails, in order to bind, is answered exactly. -/
theorem exact_of_bind_task
    (reliable : keeper.Reliable)
    (draws : Draws)
    (request : Api.BindRequest)
    (state : keeper.State × τ) :
    let task : Task := ⟨draws, .bind id bindingId request⟩
    Leads (P := storage) Exact (keeper.records state.1)
      (storeCalls (broker.conversation keeper server task state))
      (keeper.records (broker.carryOut keeper server task state).2.1) := by
  intro task
  let exactUnlessListed (call : Call) (before : Memory) (outcome : call.Outcome)
      (after : Memory) : Prop :=
    call.lists = false → Exact call before outcome after
  have lawful (call : Call) (state : keeper.State) :
      exactUnlessListed call (keeper.records state) (keeper.answer call state).1
        (keeper.records (keeper.answer call state).2) :=
    fun single => reliable.exact single state
  have course : Binding broker draws id bindingId request
      (storeCalls (broker.conversation keeper server task state))
      (broker.seen keeper server task state).calls
      (broker.seen keeper server task state).answer :=
    proceeding_of_task task state
  refine (leads_records lawful task state).weaken ?_
  intro exchange member before after permitted
  exact permitted (single_of_binding course exchange member)

/-- A binding on record stays there, and its instance, while all tasks leave it in place. -/
theorem kept_of_tasks
    {record : ServiceInstance}
    {binding : ServiceBinding}
    (tasks : List Task)
    {state : keeper.State × τ}
    (leaving : ∀ task ∈ tasks, task.operation.Leaves id bindingId)
    (recorded : (keeper.records state.1).instance? id = some record)
    (held : (keeper.records state.1).binding? id bindingId = some binding) :
    let reached := keeper.records (broker.afterwards keeper server tasks state).1
    reached.instance? id = some record ∧ reached.binding? id bindingId = some binding := by
  induction tasks generalizing state with
  | nil =>
      exact ⟨recorded, held⟩
  | cons task rest inductionHypothesis =>
      have turn : Turn broker task.draws (keeper.records state.1) task.operation
          (broker.seen keeper server task state).calls
          (broker.seen keeper server task state).answer
          (keeper.records (broker.carryOut keeper server task state).2.1) :=
        turn_of_task task state
      obtain ⟨still, kept⟩ := kept_of_turn turn (leaving task (by simp)) recorded held
      exact inductionHypothesis (fun other member => leaving other (by simp [member])) still kept

/-- What a successful binding hands out is recorded. -/
theorem recorded_of_bound
    {draws : Draws}
    {request : Api.BindRequest}
    {state : keeper.State × τ}
    {payload : Json} :
    let task : Task := ⟨draws, .bind id bindingId request⟩
    let reached := keeper.records (broker.carryOut keeper server task state).2.1
    (broker.carryOut keeper server task state).1 = .ok (.bound payload) →
      ∃ record plan site credentials,
        broker.planOf record = .ok (plan, site) ∧
          site.Chooses draws request.parameters credentials ∧
          payload = credentials.payload ∧
          reached.instance? id = some record ∧
          reached.binding? id bindingId = some ⟨bindingId, payload⟩ := by
  intro task reached bound
  have turn : Turn broker draws (keeper.records state.1) (.bind id bindingId request)
      (broker.seen keeper server task state).calls
      (broker.carryOut keeper server task state).1
      reached :=
    turn_of_task task state
  rw [bound] at turn
  exact recorded_of_turn turn

end

/--
A request that was answered with new credentials arrives again, after any tasks that
leave the binding in place.  It makes no call on a server and changes no record.  It
is answered with the same credentials if it chose both the name and the password of
the user; otherwise it is turned down, since what was issued is not what it asks for.
-/
theorem answer_of_repeated_bind
    {τ : Type}
    (broker : Broker)
    {keeper : Keeper}
    (reliable : keeper.Reliable)
    (server : (question : AdminQuestion) → τ → question.Outcome × τ)
    (state : keeper.State × τ)
    (draws again : Draws)
    (id bindingId : String)
    (request : Api.BindRequest)
    (between : List Task)
    (credentials : Json)
    (bound :
      (broker.carryOut keeper server ⟨draws, .bind id bindingId request⟩ state).1 =
        .ok (.bound credentials))
    (leaving : ∀ task ∈ between, task.operation.Leaves id bindingId) :
    let later :=
      broker.afterwards keeper server between
        (broker.carryOut keeper server ⟨draws, .bind id bindingId request⟩ state).2
    let repetition : Task := ⟨again, .bind id bindingId request⟩
    (broker.seen keeper server repetition later).calls = [] ∧
      keeper.records (broker.carryOut keeper server repetition later).2.1 =
        keeper.records later.1 ∧
      (broker.seen keeper server repetition later).answer =
        if choosesLogin request.parameters then .ok (.alreadyBound credentials)
        else .error (.conflict bindingId) := by
  intro later repetition
  obtain ⟨record, plan, site, issued, usable, chosen, rfl, recorded, held⟩ :=
    recorded_of_bound bound
  have standing : (keeper.records later.1).instance? id = some record ∧
      (keeper.records later.1).binding? id bindingId = some ⟨bindingId, issued.payload⟩ :=
    kept_of_tasks between leaving recorded held
  have course : Binding broker again id bindingId request
      (storeCalls (broker.conversation keeper server repetition later))
      (broker.seen keeper server repetition later).calls
      (broker.seen keeper server repetition later).answer :=
    proceeding_of_task repetition later
  have leads : Leads (P := storage) Exact (keeper.records later.1)
      (storeCalls (broker.conversation keeper server repetition later))
      (keeper.records (broker.carryOut keeper server repetition later).2.1) :=
    exact_of_bind_task reliable again request later
  have compared := compared_of_binding course leads standing.1 usable standing.2
  rw [sameCredentials_of_chosen chosen] at compared
  exact compared

/-! ## Two requests -/

/-- A store with one instance, and servers without users. -/
def settled : Memory × (World × Unit) :=
  (soleServer.carryOut Keeper.memory (World.answer World.unfailing)
    ⟨plainDraws, .provision "i1"
      ⟨"service", "shared", "org", "space", .object [("db_name", .text "alpha")]⟩⟩
    (Memory.empty, (fun _ => ⟨[], []⟩, ()))).2

/-- A request for credentials in which both the name and the password are chosen. -/
def chosenRequest : Api.BindRequest :=
  ⟨"service", "shared", none, .object [("password", .text "pw"), ("username", .text "bob")]⟩

/-- A request for credentials in which everything is left open. -/
def openRequest : Api.BindRequest :=
  ⟨"service", "shared", none, .null⟩

/-- Chosen credentials are found again after another binding was taken away. -/
theorem answer_of_repeated_chosenRequest :
    let server := World.answer World.unfailing
    let bob : Credentials := ⟨"alpha", "http://server", "bob", "pw"⟩
    let task : Task := ⟨plainDraws, .bind "i1" "b1" chosenRequest⟩
    let other : Task := ⟨plainDraws, .unbind "i1" "b2"⟩
    let first := soleServer.carryOut Keeper.memory server task settled
    first.1 = .ok (.bound bob.payload) ∧
      other.operation.Leaves "i1" "b1" ∧
      (soleServer.seen Keeper.memory server task
        (soleServer.afterwards Keeper.memory server [other] first.2)).answer =
        .ok (.alreadyBound bob.payload) := by
  intro server bob task other first
  have bound : first.1 = .ok (.bound bob.payload) := rfl
  have elsewhere : other.operation.Leaves "i1" "b1" := by
    simp [other, Operation.Leaves]
  have leaving : ∀ task ∈ [other], task.operation.Leaves "i1" "b1" :=
    fun task member => List.mem_singleton.mp member ▸ elsewhere
  have repeated :=
    answer_of_repeated_bind soleServer Keeper.reliable_memory server settled plainDraws plainDraws
      "i1" "b1" chosenRequest [other] bob.payload bound leaving
  exact ⟨bound, elsewhere, repeated.2.2⟩

/-- A request that leaves everything open is answered with credentials once, and then turned down. -/
theorem conflict_of_repeated_openRequest :
    let server := World.answer World.unfailing
    let task : Task := ⟨plainDraws, .bind "i1" "b1" openRequest⟩
    let first := soleServer.carryOut Keeper.memory server task settled
    let second := soleServer.carryOut Keeper.memory server task first.2
    first.1.status = 201 ∧ second.1.status ≠ 200 := by
  decide

end GraphBroker.Broker
