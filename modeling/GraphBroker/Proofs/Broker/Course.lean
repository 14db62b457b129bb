import GraphBroker.Broker.Lifecycle
import GraphBroker.Proofs.Plan.Course
import GraphBroker.Proofs.Store.Contract

namespace GraphBroker.Broker

open Dialogue Store Plan

/-!
# The courses of the broker's operations

Every operation looks at the store, turns to a server and records what came of
it, and may break off after each step.  For each operation there is a list of
its possible courses: the calls on the store, the calls on servers, and the
answer.  Every way that an operation can go is one of them, so that a proof about
the broker goes through a few courses and never opens an operation again.
-/

/-! ## The two sides of a conversation -/

/-- An exchange with the store as one of the broker's. -/
abbrev onStore (exchange : Exchange storage) : Exchange surroundings :=
  ⟨.store exchange.question, exchange.reply⟩

/-- An exchange with a server as one of the broker's. -/
abbrev onServer (exchange : Exchange administration) : Exchange surroundings :=
  ⟨.server exchange.question, exchange.reply⟩

/-- The exchanges with the store, in their order. -/
def storeCalls : List (Exchange surroundings) → List (Exchange storage)
  | [] => []
  | ⟨.store call, outcome⟩ :: rest => ⟨call, outcome⟩ :: storeCalls rest
  | ⟨.server _, _⟩ :: rest => storeCalls rest

/-- The exchanges with servers, in their order. -/
def serverCalls : List (Exchange surroundings) → List (Exchange administration)
  | [] => []
  | ⟨.store _, _⟩ :: rest => serverCalls rest
  | ⟨.server question, outcome⟩ :: rest => ⟨question, outcome⟩ :: serverCalls rest

/-- Exchanges with servers are no exchanges with the store. -/
@[simp]
theorem storeCalls_onServer_append
    (calls : List (Exchange administration))
    (rest : List (Exchange surroundings)) :
    storeCalls (calls.map onServer ++ rest) = storeCalls rest := by
  induction calls with
  | nil =>
      rfl
  | cons call others inductionHypothesis =>
      exact inductionHypothesis

@[simp]
theorem serverCalls_onServer_append
    (calls : List (Exchange administration))
    (rest : List (Exchange surroundings)) :
    serverCalls (calls.map onServer ++ rest) = calls ++ serverCalls rest := by
  induction calls with
  | nil =>
      rfl
  | cons call others inductionHypothesis =>
      exact congrArg (List.cons call) inductionHypothesis

@[simp]
theorem storeCalls_onServer
    (calls : List (Exchange administration)) :
    storeCalls (calls.map onServer) = [] := by
  simpa [storeCalls] using storeCalls_onServer_append calls []

@[simp]
theorem serverCalls_onServer
    (calls : List (Exchange administration)) :
    serverCalls (calls.map onServer) = calls := by
  simpa [serverCalls] using serverCalls_onServer_append calls []

/-- The calls on the store are what the store was asked in the course of a conversation. -/
theorem mem_storeCalls_iff
    {exchange : Exchange storage}
    {exchanges : List (Exchange surroundings)} :
    exchange ∈ storeCalls exchanges ↔ onStore exchange ∈ exchanges := by
  induction exchanges with
  | nil =>
      simp [storeCalls]
  | cons first rest inductionHypothesis =>
      obtain ⟨question, reply⟩ := first
      cases question with
      | store call =>
          rw [storeCalls, List.mem_cons, List.mem_cons, inductionHypothesis]
          refine or_congr_left ⟨?_, ?_⟩
          · rintro rfl
            rfl
          · intro same
            obtain ⟨other, outcome⟩ := exchange
            cases same
            rfl
      | server question =>
          rw [storeCalls, List.mem_cons, inductionHypothesis]
          refine ⟨Or.inr, ?_⟩
          rintro (impossible | later)
          · cases impossible
          · exact later

/-- A conversation in which a server was asked has calls on servers. -/
theorem mem_serverCalls
    {exchange : Exchange administration}
    {exchanges : List (Exchange surroundings)}
    (member : onServer exchange ∈ exchanges) :
    exchange ∈ serverCalls exchanges := by
  induction exchanges with
  | nil =>
      cases member
  | cons first rest inductionHypothesis =>
      rcases List.mem_cons.mp member with rfl | later
      · exact List.mem_cons_self
      · obtain ⟨question, reply⟩ := first
        cases question with
        | store call =>
            exact inductionHypothesis later
        | server question =>
            exact List.mem_cons_of_mem _ (inductionHypothesis later)

/-- A law for the store; what servers are asked changes nothing. -/
def storeSide {σ : Type}
    (law : (call : Store.Call) → σ → call.Outcome → σ → Prop) :
    (question : Question) → σ → question.Reply → σ → Prop
  | .store call, before, outcome, after => law call before outcome after
  | .server _, before, _, after => after = before

/-- A law for the servers; what the store is asked changes nothing. -/
def serverSide {σ : Type}
    (law : (question : AdminQuestion) → σ → question.Outcome → σ → Prop) :
    (question : Question) → σ → question.Reply → σ → Prop
  | .store _, before, _, after => after = before
  | .server question, before, outcome, after => law question before outcome after

/-- What exchanges do to the store depends on the exchanges with the store alone. -/
theorem leads_storeCalls {σ : Type}
    {law : (call : Store.Call) → σ → call.Outcome → σ → Prop}
    {exchanges : List (Exchange surroundings)}
    {before after : σ}
    (leads : Leads (P := surroundings) (storeSide law) before exchanges after) :
    Leads (P := storage) law before (storeCalls exchanges) after := by
  induction exchanges generalizing before with
  | nil =>
      exact leads
  | cons exchange rest inductionHypothesis =>
      obtain ⟨middle, permitted, later⟩ := leads
      obtain ⟨question, reply⟩ := exchange
      cases question with
      | store call =>
          exact ⟨middle, permitted, inductionHypothesis later⟩
      | server question =>
          obtain rfl : middle = before := permitted
          exact inductionHypothesis later

/-- What exchanges do to the servers depends on the exchanges with servers alone. -/
theorem leads_serverCalls {σ : Type}
    {law : (question : AdminQuestion) → σ → question.Outcome → σ → Prop}
    {exchanges : List (Exchange surroundings)}
    {before after : σ}
    (leads : Leads (P := surroundings) (serverSide law) before exchanges after) :
    Leads (P := administration) law before (serverCalls exchanges) after := by
  induction exchanges generalizing before with
  | nil =>
      exact leads
  | cons exchange rest inductionHypothesis =>
      obtain ⟨middle, permitted, later⟩ := leads
      obtain ⟨question, reply⟩ := exchange
      cases question with
      | store call =>
          obtain rfl : middle = before := permitted
          exact inductionHypothesis later
      | server question =>
          exact ⟨middle, permitted, inductionHypothesis later⟩

/-- With a store that keeps a law, a conversation leads from its state to the one after. -/
theorem leads_store {ρ σ τ α : Type}
    {store : (call : Store.Call) → ρ → call.Outcome × ρ}
    {law : (call : Store.Call) → σ → call.Outcome → σ → Prop}
    {view : ρ → σ}
    (lawful :
      ∀ call state, law call (view state) (store call state).1 (view (store call state).2))
    (server : (question : AdminQuestion) → τ → question.Outcome × τ)
    (dialogue : Dialogue surroundings α)
    (state : ρ × τ) :
    Leads (P := storage) law (view state.1)
      (storeCalls (dialogue.exchanges (respond store server) state))
      (view (dialogue.run (respond store server) state).2.1) := by
  let viewed (state : ρ × τ) : σ := view state.1
  have within (question : Question) (state : ρ × τ) :
      storeSide law question (viewed state)
        (respond store server question state).1
        (viewed (respond store server question state).2) := by
    cases question with
    | store call =>
        exact lawful call state.1
    | server question =>
        rfl
  have leads := leads_exchanges within dialogue state
  exact leads_storeCalls leads

/-! ## Courses -/

/-- The record of an instance that is provisioned on a request. -/
def recordFor (id : String) (request : Api.ProvisionRequest) (payload : Json) : ServiceInstance :=
  { guid := id
    planId := request.planId
    organization := request.organization
    space := request.space
    service := request.service
    payload }

/-- How an instance is provisioned. -/
inductive Provisioning
    (broker : Broker)
    (draws : Draws)
    (id : String)
    (request : Api.ProvisionRequest) :
    List (Exchange storage) → List (Exchange administration) → Answer → Prop where
  | lookUpFailed {error : Store.Error}
      (failed : error.isNotFound = false) :
      Provisioning broker draws id request
        [asked (.getInstance id) (.error error)]
        []
        (.error (.store error))
  /-- The plan of the record is not offered, or cannot read its payload. -/
  | unusable {record : ServiceInstance} {error : Error}
      (unusable : broker.planOf record = .error error) :
      Provisioning broker draws id request
        [asked (.getInstance id) (.ok record)]
        []
        (.error error)
  | same {record : ServiceInstance} {plan : Plan} {site : Site}
      (usable : broker.planOf record = .ok (plan, site))
      (fitting : fits plan site record request = true) :
      Provisioning broker draws id request
        [asked (.getInstance id) (.ok record)]
        []
        (.ok .alreadyProvisioned)
  | different {record : ServiceInstance} {plan : Plan} {site : Site}
      (usable : broker.planOf record = .ok (plan, site))
      (unfitting : fits plan site record request = false) :
      Provisioning broker draws id request
        [asked (.getInstance id) (.ok record)]
        []
        (.error (.conflict id))
  | unknownPlan {error : Store.Error}
      (absent : error.isNotFound = true)
      (unknown : broker.plans.find? request.planId = none) :
      Provisioning broker draws id request
        [asked (.getInstance id) (.error error)]
        []
        (.error (.unknownPlan request.planId))
  | notCreated {error : Store.Error} {plan : Plan} {calls : List (Exchange administration)}
      {failure : Plan.Error}
      (absent : error.isNotFound = true)
      (known : broker.plans.find? request.planId = some plan)
      (creating : plan.Creating draws request.parameters calls (.error failure)) :
      Provisioning broker draws id request
        [asked (.getInstance id) (.error error)]
        calls
        (.error (.plan failure))
  | notRecorded {error lost : Store.Error} {plan : Plan} {calls : List (Exchange administration)}
      {payload : Json}
      (absent : error.isNotFound = true)
      (known : broker.plans.find? request.planId = some plan)
      (creating : plan.Creating draws request.parameters calls (.ok payload)) :
      Provisioning broker draws id request
        [asked (.getInstance id) (.error error),
         asked (.addInstance id (recordFor id request payload)) (.error lost)]
        calls
        (.error (.instanceNotRecorded id lost))
  | provisioned {error : Store.Error} {plan : Plan} {calls : List (Exchange administration)}
      {payload : Json}
      (absent : error.isNotFound = true)
      (known : broker.plans.find? request.planId = some plan)
      (creating : plan.Creating draws request.parameters calls (.ok payload)) :
      Provisioning broker draws id request
        [asked (.getInstance id) (.error error),
         asked (.addInstance id (recordFor id request payload)) (.ok ())]
        calls
        (.ok .provisioned)

/-- How an instance is looked up. -/
inductive Describing (id : String) :
    List (Exchange storage) → List (Exchange administration) → Answer → Prop where
  | lookUpFailed {error : Store.Error}
      (failed : error.isNotFound = false) :
      Describing id [asked (.getInstance id) (.error error)] [] (.error (.store error))
  | absent {error : Store.Error}
      (absent : error.isNotFound = true) :
      Describing id [asked (.getInstance id) (.error error)] [] (.error (.instanceNotFound id))
  | described {record : ServiceInstance} :
      Describing id [asked (.getInstance id) (.ok record)] [] (.ok .described)

/-- How the users of bindings are taken back one after the other. -/
inductive Sweeping (server : Server) :
    List ServiceBinding → List (Exchange administration) → Prop where
  | nil :
      Sweeping server [] []
  | cons {binding : ServiceBinding} {rest : List ServiceBinding}
      {first later : List (Exchange administration)} {outcome : Except Plan.Error Unit}
      (revoking : Revoking server binding first outcome)
      (sweeping : Sweeping server rest later) :
      Sweeping server (binding :: rest) (first ++ later)

/-- Every call of a sweep takes back the credentials of one of the bindings. -/
theorem call_of_sweeping
    {server : Server}
    {bindings : List ServiceBinding}
    {calls : List (Exchange administration)}
    (sweeping : Sweeping server bindings calls)
    {call : Exchange administration}
    (member : call ∈ calls) :
    ∃ binding ∈ bindings, ∃ credentials,
      project Credentials.codec .blank binding.payload = .ok credentials ∧
        call.question.server = server ∧
        (call.question.call = .revokeAccess credentials.database credentials.username ∨
          call.question.call = .deleteUser credentials.username) := by
  induction sweeping with
  | nil =>
      cases member
  | @cons binding rest first later outcome revoking sweeping inductionHypothesis =>
      rcases List.mem_append.mp member with here | there
      · exact ⟨binding, by simp, call_of_revoking revoking here⟩
      · obtain ⟨other, among, taken⟩ := inductionHypothesis there
        exact ⟨other, by simp [among], taken⟩

/-- How an instance is deprovisioned. -/
inductive Deprovisioning (broker : Broker) (id : String) :
    List (Exchange storage) → List (Exchange administration) → Answer → Prop where
  | lookUpFailed {error : Store.Error}
      (failed : error.isNotFound = false) :
      Deprovisioning broker id
        [asked (.getInstance id) (.error error)]
        []
        (.error (.store error))
  | gone {error : Store.Error}
      (absent : error.isNotFound = true) :
      Deprovisioning broker id
        [asked (.getInstance id) (.error error)]
        []
        (.error (.instanceGone id))
  | unusable {record : ServiceInstance} {error : Error}
      (unusable : broker.planOf record = .error error) :
      Deprovisioning broker id
        [asked (.getInstance id) (.ok record)]
        []
        (.error error)
  | notListed {record : ServiceInstance} {plan : Plan} {site : Site} {error : Store.Error}
      (usable : broker.planOf record = .ok (plan, site)) :
      Deprovisioning broker id
        [asked (.getInstance id) (.ok record), asked (.getAllBindings id) (.error error)]
        []
        (.error (.store error))
  /-- The users are taken back as far as that works, but the database stays. -/
  | notRemoved {record : ServiceInstance} {plan : Plan} {site : Site}
      {bindings : List ServiceBinding} {swept calls : List (Exchange administration)}
      {failure : Plan.Error}
      (usable : broker.planOf record = .ok (plan, site))
      (sweeping : Sweeping site.server bindings swept)
      (removing : Removing site calls (.error failure)) :
      Deprovisioning broker id
        [asked (.getInstance id) (.ok record), asked (.getAllBindings id) (.ok bindings)]
        (swept ++ calls)
        (.error (.plan failure))
  | notErased {record : ServiceInstance} {plan : Plan} {site : Site}
      {bindings : List ServiceBinding} {swept calls : List (Exchange administration)}
      {lost : Store.Error}
      (usable : broker.planOf record = .ok (plan, site))
      (sweeping : Sweeping site.server bindings swept)
      (removing : Removing site calls (.ok ())) :
      Deprovisioning broker id
        [asked (.getInstance id) (.ok record), asked (.getAllBindings id) (.ok bindings),
         asked (.deleteInstance id) (.error lost)]
        (swept ++ calls)
        (.error (.instanceNotErased id lost))
  | deprovisioned {record : ServiceInstance} {plan : Plan} {site : Site}
      {bindings : List ServiceBinding} {swept calls : List (Exchange administration)}
      (usable : broker.planOf record = .ok (plan, site))
      (sweeping : Sweeping site.server bindings swept)
      (removing : Removing site calls (.ok ())) :
      Deprovisioning broker id
        [asked (.getInstance id) (.ok record), asked (.getAllBindings id) (.ok bindings),
         asked (.deleteInstance id) (.ok ())]
        (swept ++ calls)
        (.ok .deprovisioned)

/-- How credentials are issued and recorded. -/
inductive Binding
    (broker : Broker)
    (draws : Draws)
    (id bindingId : String)
    (request : Api.BindRequest) :
    List (Exchange storage) → List (Exchange administration) → Answer → Prop where
  | lookUpFailed {error : Store.Error}
      (failed : error.isNotFound = false) :
      Binding broker draws id bindingId request
        [asked (.getInstance id) (.error error)]
        []
        (.error (.store error))
  | missing {error : Store.Error}
      (absent : error.isNotFound = true) :
      Binding broker draws id bindingId request
        [asked (.getInstance id) (.error error)]
        []
        (.error (.instanceMissing id))
  | unusable {record : ServiceInstance} {error : Error}
      (unusable : broker.planOf record = .error error) :
      Binding broker draws id bindingId request
        [asked (.getInstance id) (.ok record)]
        []
        (.error error)
  | bindingLookUpFailed {record : ServiceInstance} {plan : Plan} {site : Site}
      {error : Store.Error}
      (usable : broker.planOf record = .ok (plan, site))
      (failed : error.isNotFound = false) :
      Binding broker draws id bindingId request
        [asked (.getInstance id) (.ok record), asked (.getBinding id bindingId) (.error error)]
        []
        (.error (.store error))
  | same {record : ServiceInstance} {plan : Plan} {site : Site} {binding : ServiceBinding}
      (usable : broker.planOf record = .ok (plan, site))
      (fitting : sameCredentials binding request.parameters = true) :
      Binding broker draws id bindingId request
        [asked (.getInstance id) (.ok record), asked (.getBinding id bindingId) (.ok binding)]
        []
        (.ok (.alreadyBound binding.payload))
  | different {record : ServiceInstance} {plan : Plan} {site : Site} {binding : ServiceBinding}
      (usable : broker.planOf record = .ok (plan, site))
      (unfitting : sameCredentials binding request.parameters = false) :
      Binding broker draws id bindingId request
        [asked (.getInstance id) (.ok record), asked (.getBinding id bindingId) (.ok binding)]
        []
        (.error (.conflict bindingId))
  | notIssued {record : ServiceInstance} {plan : Plan} {site : Site} {error : Store.Error}
      {calls : List (Exchange administration)} {failure : Plan.Error}
      (usable : broker.planOf record = .ok (plan, site))
      (absent : error.isNotFound = true)
      (issuing : Issuing site draws request.parameters calls (.error failure)) :
      Binding broker draws id bindingId request
        [asked (.getInstance id) (.ok record), asked (.getBinding id bindingId) (.error error)]
        calls
        (.error (.plan failure))
  | notRecorded {record : ServiceInstance} {plan : Plan} {site : Site} {error lost : Store.Error}
      {calls : List (Exchange administration)} {payload : Json}
      (usable : broker.planOf record = .ok (plan, site))
      (absent : error.isNotFound = true)
      (issuing : Issuing site draws request.parameters calls (.ok payload)) :
      Binding broker draws id bindingId request
        [asked (.getInstance id) (.ok record), asked (.getBinding id bindingId) (.error error),
         asked (.addBinding id bindingId ⟨bindingId, payload⟩) (.error lost)]
        calls
        (.error (.bindingNotRecorded bindingId lost))
  | bound {record : ServiceInstance} {plan : Plan} {site : Site} {error : Store.Error}
      {calls : List (Exchange administration)} {payload : Json}
      (usable : broker.planOf record = .ok (plan, site))
      (absent : error.isNotFound = true)
      (issuing : Issuing site draws request.parameters calls (.ok payload)) :
      Binding broker draws id bindingId request
        [asked (.getInstance id) (.ok record), asked (.getBinding id bindingId) (.error error),
         asked (.addBinding id bindingId ⟨bindingId, payload⟩) (.ok ())]
        calls
        (.ok (.bound payload))

/-- How credentials are taken back. -/
inductive Unbinding (broker : Broker) (id bindingId : String) :
    List (Exchange storage) → List (Exchange administration) → Answer → Prop where
  | lookUpFailed {error : Store.Error}
      (failed : error.isNotFound = false) :
      Unbinding broker id bindingId
        [asked (.getInstance id) (.error error)]
        []
        (.error (.store error))
  | gone {error : Store.Error}
      (absent : error.isNotFound = true) :
      Unbinding broker id bindingId
        [asked (.getInstance id) (.error error)]
        []
        (.error (.instanceGone id))
  | bindingLookUpFailed {record : ServiceInstance} {error : Store.Error}
      (failed : error.isNotFound = false) :
      Unbinding broker id bindingId
        [asked (.getInstance id) (.ok record), asked (.getBinding id bindingId) (.error error)]
        []
        (.error (.store error))
  | bindingGone {record : ServiceInstance} {error : Store.Error}
      (absent : error.isNotFound = true) :
      Unbinding broker id bindingId
        [asked (.getInstance id) (.ok record), asked (.getBinding id bindingId) (.error error)]
        []
        (.error (.bindingGone bindingId))
  | unusable {record : ServiceInstance} {binding : ServiceBinding} {error : Error}
      (unusable : broker.planOf record = .error error) :
      Unbinding broker id bindingId
        [asked (.getInstance id) (.ok record), asked (.getBinding id bindingId) (.ok binding)]
        []
        (.error error)
  | notErased {record : ServiceInstance} {plan : Plan} {site : Site} {binding : ServiceBinding}
      {error : Store.Error}
      (usable : broker.planOf record = .ok (plan, site)) :
      Unbinding broker id bindingId
        [asked (.getInstance id) (.ok record), asked (.getBinding id bindingId) (.ok binding),
         asked (.deleteBinding id bindingId) (.error error)]
        []
        (.error (.store error))
  /-- The record is gone, but not the user. -/
  | notRevoked {record : ServiceInstance} {plan : Plan} {site : Site} {binding : ServiceBinding}
      {calls : List (Exchange administration)} {failure : Plan.Error}
      (usable : broker.planOf record = .ok (plan, site))
      (revoking : Revoking site.server binding calls (.error failure)) :
      Unbinding broker id bindingId
        [asked (.getInstance id) (.ok record), asked (.getBinding id bindingId) (.ok binding),
         asked (.deleteBinding id bindingId) (.ok ())]
        calls
        (.error (.notRevoked failure))
  | unbound {record : ServiceInstance} {plan : Plan} {site : Site} {binding : ServiceBinding}
      {calls : List (Exchange administration)}
      (usable : broker.planOf record = .ok (plan, site))
      (revoking : Revoking site.server binding calls (.ok ())) :
      Unbinding broker id bindingId
        [asked (.getInstance id) (.ok record), asked (.getBinding id bindingId) (.ok binding),
         asked (.deleteBinding id bindingId) (.ok ())]
        calls
        (.ok .unbound)

/-- How an operation is carried out. -/
def Proceeding (broker : Broker) (draws : Draws) :
    Operation → List (Exchange storage) → List (Exchange administration) → Answer → Prop
  | .provision id request => Provisioning broker draws id request
  | .describe id => Describing id
  | .deprovision id => Deprovisioning broker id
  | .bind id bindingId request => Binding broker draws id bindingId request
  | .unbind id bindingId => Unbinding broker id bindingId

/-! ## Steps and what follows them -/

/-- A plan's part of an operation goes through the plan's own exchanges. -/
theorem yields_onServers
    {steps : Plan.Steps α}
    {exchanges : List (Exchange surroundings)}
    {outcome : Except Plan.Error α}
    (yields : (onServers steps).Yields exchanges outcome) :
    ∃ calls, exchanges = calls.map onServer ∧ steps.run.Yields calls outcome := by
  obtain ⟨calls, goes, relayed⟩ := yields_relay yields
  refine ⟨calls, ?_, goes⟩
  clear goes yields
  induction relayed with
  | nil =>
      rfl
  | cons answered _ inductionHypothesis =>
      rw [yields_question_iff.mp answered, inductionHypothesis]
      rfl

/-- A call on the store ends the operation if it fails. -/
theorem yields_store_bind
    {call : Store.Call}
    {report : Store.Error → Error}
    {next : call.Reply → Steps β}
    {exchanges : List (Exchange surroundings)}
    {result : Except Error β}
    (yields : (store call report >>= next).run.Yields exchanges result) :
    (∃ error, exchanges = [onStore (asked call (.error error))] ∧
        result = .error (report error)) ∨
      ∃ reply rest, exchanges = onStore (asked call (.ok reply)) :: rest ∧
        (next reply).run.Yields rest result := by
  obtain ⟨outcome, asking, rest, rfl, held, later⟩ := yields_andThen_bind yields
  obtain rfl := yields_question_iff.mp held
  cases outcome with
  | error error =>
      obtain ⟨rfl, rfl⟩ := yields_done_iff.mp later
      exact Or.inl ⟨error, rfl, rfl⟩
  | ok reply =>
      exact Or.inr ⟨reply, rest, rfl, later⟩

/-- A plan's part of an operation ends it if it fails. -/
theorem yields_throughPlan_bind
    {steps : Plan.Steps α}
    {report : Plan.Error → Error}
    {next : α → Steps β}
    {exchanges : List (Exchange surroundings)}
    {result : Except Error β}
    (yields : (throughPlan steps report >>= next).run.Yields exchanges result) :
    (∃ calls failure, exchanges = calls.map onServer ∧
        steps.run.Yields calls (.error failure) ∧ result = .error (report failure)) ∨
      ∃ value calls rest, exchanges = calls.map onServer ++ rest ∧
        steps.run.Yields calls (.ok value) ∧ (next value).run.Yields rest result := by
  obtain ⟨outcome, earlier, rest, rfl, held, later⟩ := yields_andThen_bind yields
  obtain ⟨calls, rfl, goes⟩ := yields_onServers held
  cases outcome with
  | error failure =>
      obtain ⟨rfl, rfl⟩ := yields_done_iff.mp later
      exact Or.inl ⟨calls, failure, List.append_nil _, goes, rfl⟩
  | ok value =>
      exact Or.inr ⟨value, calls, rest, rfl, goes, later⟩

/-- A look-up fails, or finds nothing, or finds a record. -/
theorem yields_lookUp_bind
    {call : Store.Call}
    {next : Option call.Reply → Steps β}
    {exchanges : List (Exchange surroundings)}
    {result : Except Error β}
    (yields :
      ((ExceptT.mk ((askStore call).andThen fun outcome => .done (found? outcome)) :
          Steps (Option call.Reply)) >>= next).run.Yields exchanges result) :
    (∃ error, error.isNotFound = false ∧ exchanges = [onStore (asked call (.error error))] ∧
        result = .error (.store error)) ∨
      (∃ error rest, error.isNotFound = true ∧
        exchanges = onStore (asked call (.error error)) :: rest ∧
          (next none).run.Yields rest result) ∨
      ∃ record rest, exchanges = onStore (asked call (.ok record)) :: rest ∧
        (next (some record)).run.Yields rest result := by
  obtain ⟨outcome, asking, rest, rfl, held, later⟩ := yields_andThen_bind yields
  obtain rfl := yields_question_iff.mp held
  cases outcome with
  | ok record =>
      exact Or.inr (Or.inr ⟨record, rest, rfl, later⟩)
  | error error =>
      cases absent : error.isNotFound with
      | true =>
          simp only [found?, absent, if_true] at later
          exact Or.inr (Or.inl ⟨error, rest, absent, rfl, later⟩)
      | false =>
          simp only [found?, absent, Bool.false_eq_true, if_false] at later
          obtain ⟨rfl, rfl⟩ := yields_done_iff.mp later
          exact Or.inl ⟨error, absent, rfl, rfl⟩

/-- Taking back the users of bindings goes through one course for each of them. -/
theorem sweeping_of_yields
    {server : Server}
    {bindings : List ServiceBinding}
    {exchanges : List (Exchange surroundings)}
    (yields : (sweep server bindings).Yields exchanges ()) :
    ∃ calls, exchanges = calls.map onServer ∧ Sweeping server bindings calls := by
  induction bindings generalizing exchanges with
  | nil =>
      obtain ⟨rfl, _⟩ := yields_done_iff.mp yields
      exact ⟨[], rfl, .nil⟩
  | cons binding rest inductionHypothesis =>
      obtain ⟨outcome, earlier, later, rfl, before, after⟩ := yields_andThen_iff.mp yields
      obtain ⟨first, rfl, goes⟩ := yields_onServers before
      obtain ⟨others, rfl, sweeping⟩ := inductionHypothesis after
      exact ⟨first ++ others, List.map_append.symm, .cons (revoking_of_yields goes) sweeping⟩

/-- The site of a record is the one in its payload. -/
theorem siteOf_eq_ok_iff
    {plan : Plan}
    {record : ServiceInstance}
    {site : Site} :
    plan.siteOf record = .ok site ↔ plan.site? record.payload = .ok site :=
  mapError_eq_ok_iff

/-- The plan of a recorded instance is offered, and its payload describes the site. -/
theorem planOf_eq_ok_iff
    {broker : Broker}
    {record : ServiceInstance}
    {plan : Plan}
    {site : Site} :
    broker.planOf record = .ok (plan, site) ↔
      broker.plans.find? record.planId = some plan ∧ plan.site? record.payload = .ok site := by
  rw [← siteOf_eq_ok_iff]
  cases known : broker.plans.find? record.planId with
  | none => simp [planOf, known]
  | some offered =>
      cases located : offered.siteOf record with
      | error error =>
          simp only [planOf, known, located, Option.some.injEq]
          constructor
          · intro usable
            cases usable
          · rintro ⟨rfl, described⟩
            rw [located] at described
            cases described
      | ok found =>
          simp only [planOf, known, located, Option.some.injEq, Except.ok.injEq, Prod.mk.injEq]
          constructor
          · rintro ⟨rfl, rfl⟩
            exact ⟨rfl, located⟩
          · rintro ⟨rfl, described⟩
            rw [located] at described
            cases described
            exact ⟨rfl, rfl⟩

/-- Issuing credentials for a recorded instance issues them for its site. -/
theorem issuing_of_plan_bind
    {broker : Broker}
    {draws : Draws}
    {record : ServiceInstance}
    {plan : Plan}
    {site : Site}
    {parameters : Json}
    {calls : List (Exchange administration)}
    {outcome : Except Plan.Error Json}
    (usable : broker.planOf record = .ok (plan, site))
    (goes : (plan.bind draws record.payload parameters).run.Yields calls outcome) :
    Issuing site draws parameters calls outcome := by
  have described := (planOf_eq_ok_iff.mp usable).2
  rcases yields_given_bind goes with ⟨error, unread, _, _⟩ | ⟨found, read, issuing⟩
  · obtain ⟨_, impossible, _⟩ := mapError_eq_error_iff.mp unread
    rw [described] at impossible
    cases impossible
  · have same := (mapError_eq_ok_iff.mp read).symm.trans described
    cases same
    exact issuing_of_yields issuing

/-! ## Every way of an operation is one of its courses -/

/-- The calls of provisioning, and what they come to. -/
theorem provisioning_of_yields
    {broker : Broker}
    {draws : Draws}
    {id : String}
    {request : Api.ProvisionRequest}
    {exchanges : List (Exchange surroundings)}
    {answer : Answer}
    (yields : (broker.provision draws id request).run.Yields exchanges answer) :
    Provisioning broker draws id request (storeCalls exchanges) (serverCalls exchanges) answer := by
  rcases yields_lookUp_bind yields with
    ⟨error, failed, rfl, rfl⟩ | ⟨error, rest, absent, rfl, creating⟩ | ⟨record, rest, rfl, found⟩
  · exact .lookUpFailed failed
  · cases known : broker.plans.find? request.planId with
    | none =>
        simp only [known] at creating
        obtain ⟨rfl, rfl⟩ := yields_done_iff.mp creating
        exact .unknownPlan absent known
    | some plan =>
        simp only [known] at creating
        rcases yields_throughPlan_bind creating with
          ⟨calls, failure, rfl, goes, rfl⟩ | ⟨payload, calls, later, rfl, goes, recording⟩
        · simp only [storeCalls, serverCalls, storeCalls_onServer, serverCalls_onServer]
          exact .notCreated absent known (creating_of_yields goes)
        · have created := creating_of_yields goes
          rcases yields_store_bind recording with ⟨lost, rfl, rfl⟩ | ⟨_, last, rfl, finished⟩
          · simp only [storeCalls, serverCalls, storeCalls_onServer_append,
              serverCalls_onServer_append, List.append_nil]
            exact .notRecorded absent known created
          · obtain ⟨rfl, rfl⟩ := yields_done_iff.mp finished
            simp only [storeCalls, serverCalls, storeCalls_onServer_append,
              serverCalls_onServer_append, List.append_nil]
            exact .provisioned absent known created
  · rcases yields_given_bind found with
      ⟨error, unusable, rfl, rfl⟩ | ⟨⟨plan, site⟩, usable, compared⟩
    · exact .unusable unusable
    · cases fitting : fits plan site record request with
      | true =>
          simp only [fitting, if_true] at compared
          obtain ⟨rfl, rfl⟩ := yields_done_iff.mp compared
          exact .same usable fitting
      | false =>
          simp only [fitting, Bool.false_eq_true, if_false] at compared
          obtain ⟨rfl, rfl⟩ := yields_done_iff.mp compared
          exact .different usable fitting

/-- The calls of describing, and what they come to. -/
theorem describing_of_yields
    {id : String}
    {exchanges : List (Exchange surroundings)}
    {answer : Answer}
    (yields : (describe id).run.Yields exchanges answer) :
    Describing id (storeCalls exchanges) (serverCalls exchanges) answer := by
  rcases yields_lookUp_bind yields with
    ⟨error, failed, rfl, rfl⟩ | ⟨error, rest, absent, rfl, finished⟩ | ⟨record, rest, rfl, finished⟩
  · exact .lookUpFailed failed
  · obtain ⟨rfl, rfl⟩ := yields_done_iff.mp finished
    exact .absent absent
  · obtain ⟨rfl, rfl⟩ := yields_done_iff.mp finished
    exact .described

/-- The calls of deprovisioning, and what they come to. -/
theorem deprovisioning_of_yields
    {broker : Broker}
    {id : String}
    {exchanges : List (Exchange surroundings)}
    {answer : Answer}
    (yields : (broker.deprovision id).run.Yields exchanges answer) :
    Deprovisioning broker id (storeCalls exchanges) (serverCalls exchanges) answer := by
  rcases yields_lookUp_bind yields with
    ⟨error, failed, rfl, rfl⟩ | ⟨error, rest, absent, rfl, finished⟩ | ⟨record, rest, rfl, found⟩
  · exact .lookUpFailed failed
  · obtain ⟨rfl, rfl⟩ := yields_done_iff.mp finished
    exact .gone absent
  · rcases yields_given_bind found with
      ⟨error, unusable, rfl, rfl⟩ | ⟨⟨plan, site⟩, usable, listing⟩
    · exact .unusable unusable
    · rcases yields_store_bind listing with ⟨error, rfl, rfl⟩ | ⟨bindings, later, rfl, cleaning⟩
      · exact .notListed usable
      · obtain ⟨_, earlier, last, rfl, swept, removing⟩ := yields_andThen_bind cleaning
        obtain ⟨calls, rfl, sweeping⟩ := sweeping_of_yields swept
        rcases yields_throughPlan_bind removing with
          ⟨others, failure, rfl, goes, rfl⟩ | ⟨_, others, final, rfl, goes, erasing⟩
        · simp only [storeCalls, serverCalls, storeCalls_onServer, serverCalls_onServer,
            storeCalls_onServer_append, serverCalls_onServer_append]
          exact .notRemoved usable sweeping (removing_of_yields goes)
        · have gone := removing_of_yields goes
          rcases yields_store_bind erasing with ⟨lost, rfl, rfl⟩ | ⟨_, none, rfl, finished⟩
          · simp only [storeCalls, serverCalls, storeCalls_onServer_append,
              serverCalls_onServer_append, List.append_nil]
            exact .notErased usable sweeping gone
          · obtain ⟨rfl, rfl⟩ := yields_done_iff.mp finished
            simp only [storeCalls, serverCalls, storeCalls_onServer_append,
              serverCalls_onServer_append, List.append_nil]
            exact .deprovisioned usable sweeping gone

/-- The calls of binding, and what they come to. -/
theorem binding_of_yields
    {broker : Broker}
    {draws : Draws}
    {id bindingId : String}
    {request : Api.BindRequest}
    {exchanges : List (Exchange surroundings)}
    {answer : Answer}
    (yields : (broker.bind draws id bindingId request).run.Yields exchanges answer) :
    Binding broker draws id bindingId request
      (storeCalls exchanges) (serverCalls exchanges) answer := by
  rcases yields_lookUp_bind yields with
    ⟨error, failed, rfl, rfl⟩ | ⟨error, rest, absent, rfl, finished⟩ | ⟨record, rest, rfl, found⟩
  · exact .lookUpFailed failed
  · obtain ⟨rfl, rfl⟩ := yields_done_iff.mp finished
    exact .missing absent
  · rcases yields_given_bind found with
      ⟨error, unusable, rfl, rfl⟩ | ⟨⟨plan, site⟩, usable, looking⟩
    · exact .unusable unusable
    · rcases yields_lookUp_bind looking with
        ⟨error, failed, rfl, rfl⟩ | ⟨error, rest, absent, rfl, issuing⟩ |
          ⟨binding, rest, rfl, compared⟩
      · exact .bindingLookUpFailed usable failed
      · rcases yields_throughPlan_bind issuing with
          ⟨calls, failure, rfl, goes, rfl⟩ | ⟨payload, calls, later, rfl, goes, recording⟩
        · have issued := issuing_of_plan_bind usable goes
          simp only [storeCalls, serverCalls, storeCalls_onServer, serverCalls_onServer]
          exact .notIssued usable absent issued
        · have issued := issuing_of_plan_bind usable goes
          rcases yields_store_bind recording with ⟨lost, rfl, rfl⟩ | ⟨_, last, rfl, finished⟩
          · simp only [storeCalls, serverCalls, storeCalls_onServer_append,
              serverCalls_onServer_append, List.append_nil]
            exact .notRecorded usable absent issued
          · obtain ⟨rfl, rfl⟩ := yields_done_iff.mp finished
            simp only [storeCalls, serverCalls, storeCalls_onServer_append,
              serverCalls_onServer_append, List.append_nil]
            exact .bound usable absent issued
      · cases fitting : sameCredentials binding request.parameters with
        | true =>
            simp only [fitting, if_true] at compared
            obtain ⟨rfl, rfl⟩ := yields_done_iff.mp compared
            exact .same usable fitting
        | false =>
            simp only [fitting, Bool.false_eq_true, if_false] at compared
            obtain ⟨rfl, rfl⟩ := yields_done_iff.mp compared
            exact .different usable fitting

/-- The calls of unbinding, and what they come to. -/
theorem unbinding_of_yields
    {broker : Broker}
    {id bindingId : String}
    {exchanges : List (Exchange surroundings)}
    {answer : Answer}
    (yields : (broker.unbind id bindingId).run.Yields exchanges answer) :
    Unbinding broker id bindingId (storeCalls exchanges) (serverCalls exchanges) answer := by
  rcases yields_lookUp_bind yields with
    ⟨error, failed, rfl, rfl⟩ | ⟨error, rest, absent, rfl, finished⟩ | ⟨record, rest, rfl, looking⟩
  · exact .lookUpFailed failed
  · obtain ⟨rfl, rfl⟩ := yields_done_iff.mp finished
    exact .gone absent
  · rcases yields_lookUp_bind looking with
      ⟨error, failed, rfl, rfl⟩ | ⟨error, rest, absent, rfl, finished⟩ | ⟨binding, rest, rfl, found⟩
    · exact .bindingLookUpFailed failed
    · obtain ⟨rfl, rfl⟩ := yields_done_iff.mp finished
      exact .bindingGone absent
    · rcases yields_given_bind found with
        ⟨error, unusable, rfl, rfl⟩ | ⟨⟨plan, site⟩, usable, erasing⟩
      · exact .unusable unusable
      · rcases yields_store_bind erasing with ⟨error, rfl, rfl⟩ | ⟨_, later, rfl, revoking⟩
        · exact .notErased usable
        · rcases yields_throughPlan_bind revoking with
            ⟨calls, failure, rfl, goes, rfl⟩ | ⟨_, calls, last, rfl, goes, finished⟩
          · simp only [storeCalls, serverCalls, storeCalls_onServer, serverCalls_onServer]
            exact .notRevoked usable (revoking_of_yields goes)
          · obtain ⟨rfl, rfl⟩ := yields_done_iff.mp finished
            simp only [storeCalls, serverCalls, storeCalls_onServer, serverCalls_onServer,
              List.append_nil]
            exact .unbound usable (revoking_of_yields goes)

/-- Carrying out an operation takes one of its courses. -/
theorem proceeding_of_yields
    {broker : Broker}
    {draws : Draws}
    {operation : Operation}
    {exchanges : List (Exchange surroundings)}
    {answer : Answer}
    (yields : (broker.perform draws operation).Yields exchanges answer) :
    Proceeding broker draws operation (storeCalls exchanges) (serverCalls exchanges) answer := by
  cases operation with
  | provision id request =>
      exact provisioning_of_yields yields
  | describe id =>
      exact describing_of_yields yields
  | deprovision id =>
      exact deprovisioning_of_yields yields
  | bind id bindingId request =>
      exact binding_of_yields yields
  | unbind id bindingId =>
      exact unbinding_of_yields yields

end GraphBroker.Broker
