import GraphBroker.Proofs.Broker.Course
import GraphBroker.Proofs.Gateway.Authorization
import GraphBroker.Proofs.Gateway.Routes
import GraphBroker.Proofs.Store.Vault

namespace GraphBroker.Gateway

open Dialogue Store Text

/-!
# What passes the gate

The store and the servers are reached only by operations, and an operation begins
only with a request that carries the broker's login and asks for the operation in
every particular: its path, its method, its identifiers and its body.  Every other
request is answered at once, with nobody asked.
-/

namespace Request

/-- A request carries a login: it presents it, and as its name is cut at no colon it is read as that. -/
def Carries (request : Request) (login : Login) : Prop :=
  request.Presents login ∧ ':' ∉ login.username.toList

/-- A request submits a value: its body is announced as JSON, is not too long and reads as the value. -/
structure Submits (request : Request) (codec : Json.Codec α) (value : α) : Prop where
  announced : ∃ type, (request.values "content-type").head? = some type ∧ announcesJson type = true
  bounded : request.body.length ≤ bodyLimit
  reads : codec.read.bytes request.body = .ok value

/-- A request asks for an operation by its method, its path, the identifiers in it, and its body. -/
inductive Asks (request : Request) : Broker.Operation → Prop where
  | provision {raw id : String} {value : Api.ProvisionRequest}
      (method : request.method = "PUT")
      (path : pathOf request.target = "/v2/service_instances/" ++ raw)
      (identifies : Identifies raw id)
      (submits : request.Submits Api.ProvisionRequest.codec value) :
      Asks request (.provision id value)
  | describe {raw id : String}
      (method : request.method = "GET" ∨ request.method = "HEAD")
      (path : pathOf request.target = "/v2/service_instances/" ++ raw)
      (identifies : Identifies raw id) :
      Asks request (.describe id)
  | deprovision {raw id : String}
      (method : request.method = "DELETE")
      (path : pathOf request.target = "/v2/service_instances/" ++ raw)
      (identifies : Identifies raw id) :
      Asks request (.deprovision id)
  | bind {raw rawBinding id bindingId : String} {value : Api.BindRequest}
      (method : request.method = "PUT")
      (path : pathOf request.target =
        "/v2/service_instances/" ++ raw ++ "/service_bindings/" ++ rawBinding)
      (identifies : Identifies raw id)
      (identifiesBinding : Identifies rawBinding bindingId)
      (submits : request.Submits Api.BindRequest.codec value) :
      Asks request (.bind id bindingId value)
  | unbind {raw rawBinding id bindingId : String}
      (method : request.method = "DELETE")
      (path : pathOf request.target =
        "/v2/service_instances/" ++ raw ++ "/service_bindings/" ++ rawBinding)
      (identifies : Identifies raw id)
      (identifiesBinding : Identifies rawBinding bindingId) :
      Asks request (.unbind id bindingId)

/-- The answers to requests that are not carried out. -/
inductive Declined (broker : Broker) (request : Request) : Response → Prop where
  /-- The path is of no place, whoever asks. -/
  | unrouted {response : Response}
      (nowhere : ∀ route : Route, ¬ route.Names (pathOf request.target))
      (status : response.status = 404) :
      Declined broker request response
  /-- The login is missing or another, whatever the method. -/
  | unauthorized {route : Route} {response : Response}
      (named : route.Names (pathOf request.target))
      (barred : ¬ request.Carries broker.login)
      (status : response.status = 401) :
      Declined broker request response
  | wrongMethod {route : Route} {response : Response}
      (named : route.Names (pathOf request.target))
      (carries : request.Carries broker.login)
      (refused : takes route.methods request.method = false)
      (status : response.status = 405) :
      Declined broker request response
  /-- An identifier or the body is no use. -/
  | malformed {route : Route} {response : Response}
      (named : route.Names (pathOf request.target))
      (carries : request.Carries broker.login)
      (taken : takes route.methods request.method = true)
      (placed : route ≠ .catalog)
      (unasked : ∀ operation, ¬ request.Asks operation)
      (status : response.status = 400) :
      Declined broker request response
  | catalog
      (path : pathOf request.target = "/v2/catalog")
      (carries : request.Carries broker.login)
      (method : request.method = "GET" ∨ request.method = "HEAD") :
      Declined broker request (deliver request (.json 200 (Api.Catalog.codec.write broker.catalog)))

end Request

/-! ## Identifiers and bodies -/

/-- A segment that identifies an instance is read as its identifier. -/
theorem Identifies.instanceId
    {raw id : String}
    (identifies : Identifies raw id) :
    instanceId raw = .ok id :=
  instanceId_eq_ok_iff.mpr ⟨identifies.decodes, identifies.shows⟩

theorem Identifies.given
    {raw id : String}
    (identifies : Identifies raw id) :
    raw ≠ "" := by
  rintro rfl
  have nothing : decodeId? "" = some "" := decodeId?_eq_some_iff.mpr rfl
  obtain rfl : id = "" := by
    simpa [nothing] using (decodeId?_eq_some_iff.mpr identifies.decodes).symm
  exact identifies.shows (by simp [IsBlank])

/-- The path of an instance names its route. -/
theorem Identifies.names
    {raw id path : String}
    (identifies : Identifies raw id)
    (written : path = "/v2/service_instances/" ++ raw) :
    (Route.serviceInstance raw).Names path := by
  rw [written]
  exact .serviceInstance identifies.slashless identifies.given

/-- The path of a binding names its route. -/
theorem Identifies.names_binding
    {raw rawBinding id bindingId path : String}
    (identifies : Identifies raw id)
    (identifiesBinding : Identifies rawBinding bindingId)
    (written : path = "/v2/service_instances/" ++ raw ++ "/service_bindings/" ++ rawBinding) :
    (Route.serviceBinding raw rawBinding).Names path := by
  rw [written]
  exact .serviceBinding identifies.slashless identifiesBinding.slashless identifiesBinding.given

/-- A segment that is read as an identifier identifies the instance. -/
theorem identifies_of_instanceId
    {raw id : String}
    (slashless : '/' ∉ raw.toList)
    (read : instanceId raw = .ok id) :
    Identifies raw id :=
  have ⟨decodes, shows⟩ := instanceId_eq_ok_iff.mp read
  ⟨slashless, decodes, shows⟩

/-- The body of a request is taken for the value that it submits. -/
theorem read_eq_ok_iff
    {request : Request}
    {codec : Json.Codec α}
    {value : α} :
    request.read codec = .ok value ↔ request.Submits codec value := by
  unfold Request.read
  constructor
  · intro read
    split at read
    · cases read
    · next type others values =>
        split at read
        · cases read
        · next announced =>
            split at read
            · cases read
            · next bounded =>
                split at read
                · next result =>
                    cases read
                    exact ⟨⟨type, by rw [values]; rfl, by simpa using announced⟩,
                      Nat.le_of_not_lt bounded, result⟩
                · cases read
                · cases read
  · rintro ⟨⟨type, first, announced⟩, bounded, result⟩
    cases values : request.values "content-type" with
    | nil =>
        rw [values] at first
        cases first
    | cons other others =>
        rw [values] at first
        cases first
        simp [announced, Nat.not_lt.mpr bounded, result]

/-- A request is admitted when its body is read, as the operation that the body asks for. -/
theorem whenRead_eq_admitted_iff
    {read : Except BodyError α}
    {operation : α → Broker.Operation}
    {admitted : Broker.Operation} :
    whenRead read operation = .admitted admitted ↔
      ∃ value, read = .ok value ∧ operation value = admitted := by
  cases read <;> simp [whenRead]

/-- A request is admitted when its identifiers are given, and it is with them. -/
theorem withIds_eq_admitted_iff
    {ids : Except MissingId α}
    {next : α → Passage}
    {admitted : Broker.Operation} :
    withIds ids next = .admitted admitted ↔ ∃ given, ids = .ok given ∧ next given = .admitted admitted := by
  cases ids <;> simp [withIds]

/-! ## The way to an operation -/

section

variable {broker : Broker} {request : Request} {operation : Broker.Operation}

/-- What is dispatched from the place of an instance asks for an operation on it. -/
theorem asks_of_dispatch_instance
    {raw : String}
    (path : pathOf request.target = "/v2/service_instances/" ++ raw)
    (slashless : '/' ∉ raw.toList)
    (taken : takes (Route.serviceInstance raw).methods request.method = true)
    (admitted : dispatch broker request (.serviceInstance raw) = .admitted operation) :
    request.Asks operation := by
  obtain ⟨id, read, admitted⟩ := withIds_eq_admitted_iff.mp admitted
  have identifies := identifies_of_instanceId slashless read
  split at admitted
  · next put =>
      obtain ⟨value, submitted, rfl⟩ := whenRead_eq_admitted_iff.mp admitted
      exact .provision put path identifies (read_eq_ok_iff.mp submitted)
  · next notPut =>
      split at admitted
      · next delete =>
          cases admitted
          exact .deprovision delete path identifies
      · next notDelete =>
          cases admitted
          have looks : request.method = "GET" ∨ request.method = "HEAD" := by
            simpa [takes, Route.methods, notPut, notDelete] using taken
          exact .describe looks path identifies

/-- What is dispatched from the place of a binding asks for an operation on it. -/
theorem asks_of_dispatch_binding
    {raw rawBinding : String}
    (path : pathOf request.target =
      "/v2/service_instances/" ++ raw ++ "/service_bindings/" ++ rawBinding)
    (slashless : '/' ∉ raw.toList)
    (slashlessBinding : '/' ∉ rawBinding.toList)
    (taken : takes (Route.serviceBinding raw rawBinding).methods request.method = true)
    (admitted : dispatch broker request (.serviceBinding raw rawBinding) = .admitted operation) :
    request.Asks operation := by
  obtain ⟨⟨id, bindingId⟩, read, admitted⟩ := withIds_eq_admitted_iff.mp admitted
  obtain ⟨readId, readBindingId⟩ := bindingIds_eq_ok_iff.mp read
  have identifies := identifies_of_instanceId slashless readId
  have identifiesBinding := identifies_of_instanceId slashlessBinding readBindingId
  simp only at admitted
  split at admitted
  · next put =>
      obtain ⟨value, submitted, rfl⟩ := whenRead_eq_admitted_iff.mp admitted
      exact .bind put path identifies identifiesBinding (read_eq_ok_iff.mp submitted)
  · next notPut =>
      cases admitted
      have delete : request.method = "DELETE" := by
        simpa [takes, Route.methods, notPut] using taken
      exact .unbind delete path identifies identifiesBinding

/-- What is dispatched to an operation asks for it. -/
theorem asks_of_dispatch
    {route : Route}
    (named : route.Names (pathOf request.target))
    (taken : takes route.methods request.method = true)
    (admitted : dispatch broker request route = .admitted operation) :
    request.Asks operation := by
  generalize path : pathOf request.target = written at named
  cases named with
  | catalog | unnamedInstance | unnamedBinding =>
      cases admitted
  | serviceInstance slashless given =>
      exact asks_of_dispatch_instance path slashless taken admitted
  | serviceBinding slashless slashlessBinding given =>
      exact asks_of_dispatch_binding path slashless slashlessBinding taken admitted

/-- A request that asks for an operation is dispatched to it from a place that takes its method. -/
theorem dispatch_of_asks
    (broker : Broker)
    (asks : request.Asks operation) :
    ∃ route : Route, route.Names (pathOf request.target) ∧
      takes route.methods request.method = true ∧
      dispatch broker request route = .admitted operation := by
  cases asks with
  | @provision raw id value method path identifies submits =>
      refine ⟨.serviceInstance raw, identifies.names path, ?_, ?_⟩
      · simp [takes, Route.methods, method]
      · simp [dispatch, identifies.instanceId, withIds, method, read_eq_ok_iff.mpr submits,
          whenRead]
  | @describe raw id method path identifies =>
      refine ⟨.serviceInstance raw, identifies.names path, ?_⟩
      rcases method with get | head
      · simp [takes, Route.methods, get, dispatch, identifies.instanceId, withIds]
      · simp [takes, Route.methods, head, dispatch, identifies.instanceId, withIds]
  | @deprovision raw id method path identifies =>
      refine ⟨.serviceInstance raw, identifies.names path, ?_, ?_⟩
      · simp [takes, Route.methods, method]
      · simp [dispatch, identifies.instanceId, withIds, method]
  | @bind raw rawBinding id bindingId value method path identifies identifiesBinding submits =>
      have ids := bindingIds_eq_ok_iff.mpr ⟨identifies.instanceId, identifiesBinding.instanceId⟩
      refine ⟨.serviceBinding raw rawBinding, identifies.names_binding identifiesBinding path,
        ?_, ?_⟩
      · simp [takes, Route.methods, method]
      · simp [dispatch, ids, withIds, method, read_eq_ok_iff.mpr submits, whenRead]
  | @unbind raw rawBinding id bindingId method path identifies identifiesBinding =>
      have ids := bindingIds_eq_ok_iff.mpr ⟨identifies.instanceId, identifiesBinding.instanceId⟩
      refine ⟨.serviceBinding raw rawBinding, identifies.names_binding identifiesBinding path,
        ?_, ?_⟩
      · simp [takes, Route.methods, method]
      · simp [dispatch, ids, withIds, method]

/-! ## The gate -/

theorem pass_of_unrouted
    (nowhere : Route.ofPath? (pathOf request.target) = none) :
    pass broker request = .answered (.bare 404) := by
  simp only [pass, nowhere]

/-- A request to a place is let beyond the gate with the broker's login, and else turned away. -/
theorem pass_of_routed
    {route : Route}
    (routed : Route.ofPath? (pathOf request.target) = some route) :
    pass broker request =
      if request.login? = some broker.login then beyondGate broker request route
      else .answered (turnedAway request route) := by
  cases presented : request.login? with
  | none =>
      simp only [pass, routed, presented, turnedAway, reduceCtorEq, if_false]
  | some login =>
      by_cases same : login = broker.login
      · subst same
        have accepted := accepts_iff.mpr (rfl : broker.login = broker.login)
        simp only [pass, routed, presented, accepted, beyondGate, if_true]
        cases takes route.methods request.method <;> simp
      · have unaccepted : accepts broker.login login = false := by
          rw [Bool.eq_false_iff]
          exact fun accepted => same (accepts_iff.mp accepted)
        simp [pass, routed, presented, unaccepted, same, turnedAway]

/-- A request with the broker's login is dispatched from a place that takes its method. -/
theorem pass_of_taken
    {route : Route}
    (named : route.Names (pathOf request.target))
    (carries : request.Carries broker.login)
    (taken : takes route.methods request.method = true) :
    pass broker request = dispatch broker request route := by
  rw [pass_of_routed (Route.ofPath?_eq_some_iff.mpr named),
    if_pos (login?_eq_some_iff.mpr carries), beyondGate, if_pos taken]

/-- A request is admitted to an operation if it carries the broker's login and asks for it. -/
theorem pass_eq_admitted_iff :
    pass broker request = .admitted operation ↔
      request.Carries broker.login ∧ request.Asks operation := by
  constructor
  · intro admitted
    cases routed : Route.ofPath? (pathOf request.target) with
    | none =>
        rw [pass_of_unrouted routed] at admitted
        cases admitted
    | some route =>
        rw [pass_of_routed routed] at admitted
        split at admitted
        · next presented =>
            refine ⟨login?_eq_some_iff.mp presented, ?_⟩
            unfold beyondGate at admitted
            split at admitted
            · next taken =>
                exact asks_of_dispatch (Route.ofPath?_eq_some_iff.mp routed) taken admitted
            · cases admitted
        · cases admitted
  · rintro ⟨carries, asks⟩
    obtain ⟨route, named, taken, dispatched⟩ := dispatch_of_asks broker asks
    rw [pass_of_taken named carries taken, dispatched]

/-- What is dispatched and answered at once is the catalog, or the request is no use. -/
theorem answer_of_dispatch
    {route : Route}
    {response : Response}
    (answered : dispatch broker request route = .answered response) :
    (route = .catalog ∧ response = .json 200 (Api.Catalog.codec.write broker.catalog)) ∨
      (route ≠ .catalog ∧ response.status = 400) := by
  have of_read {α : Type} {read : Except BodyError α} {operation : α → Broker.Operation}
      (answered : whenRead read operation = .answered response) : response.status = 400 := by
    cases read <;> cases answered
    rfl
  have of_ids {α : Type} {ids : Except MissingId α} {next : α → Passage}
      (later : ∀ given, next given = .answered response → response.status = 400)
      (answered : withIds ids next = .answered response) : response.status = 400 := by
    cases ids with
    | ok given =>
        exact later given answered
    | error missing =>
        cases answered
        rfl
  cases route with
  | catalog =>
      cases answered
      exact Or.inl ⟨rfl, rfl⟩
  | unnamedInstance | unnamedBinding =>
      cases answered
      exact Or.inr ⟨by simp, rfl⟩
  | serviceInstance raw =>
      refine Or.inr ⟨by simp, of_ids (fun id answered => ?_) answered⟩
      split at answered
      · exact of_read answered
      · split at answered <;> cases answered
  | serviceBinding raw rawBinding =>
      refine Or.inr ⟨by simp, of_ids (fun (id, bindingId) answered => ?_) answered⟩
      simp only at answered
      split at answered
      · exact of_read answered
      · cases answered

/-- A delivered answer has the status of the answer. -/
theorem status_deliver
    (request : Request)
    (response : Response) :
    (deliver request response).status = response.status := by
  unfold deliver
  split <;> rfl

/-- What is answered at the gate is answered as such a request should be. -/
theorem declined_of_answered
    {response : Response}
    (answered : pass broker request = .answered response) :
    request.Declined broker (deliver request response) := by
  have status := status_deliver request response
  have unasked (carries : request.Carries broker.login) (operation : Broker.Operation) :
      ¬ request.Asks operation := by
    intro asks
    rw [pass_eq_admitted_iff.mpr ⟨carries, asks⟩] at answered
    cases answered
  cases routed : Route.ofPath? (pathOf request.target) with
  | none =>
      rw [pass_of_unrouted routed] at answered
      cases answered
      refine .unrouted (fun route named => ?_) status
      rw [Route.ofPath?_eq_some_iff.mpr named] at routed
      cases routed
  | some route =>
      have named := Route.ofPath?_eq_some_iff.mp routed
      rw [pass_of_routed routed] at answered
      split at answered
      · next presented =>
          have carries : request.Carries broker.login := login?_eq_some_iff.mp presented
          unfold beyondGate at answered
          split at answered
          · next taken =>
              rcases answer_of_dispatch answered with ⟨rfl, rfl⟩ | ⟨placed, malformed⟩
              · have looks : request.method = "GET" ∨ request.method = "HEAD" := by
                  simpa [takes, Route.methods] using taken
                generalize target : pathOf request.target = path at named
                cases named
                exact .catalog target carries looks
              · exact .malformed named carries taken placed (unasked carries)
                  (status.trans malformed)
          · next refused =>
              cases answered
              exact .wrongMethod named carries (by simpa using refused) status
      · next unpresented =>
          cases answered
          refine .unauthorized named (fun carries => ?_) (status.trans ?_)
          · exact unpresented (login?_eq_some_iff.mpr carries)
          · unfold turnedAway
            split <;> rfl

/-- What GET and HEAD may ask for is to look an instance up. -/
theorem describe_of_looking
    (asks : request.Asks operation)
    (looking : request.method = "GET" ∨ request.method = "HEAD") :
    ∃ id, operation = .describe id := by
  cases asks with
  | provision method | deprovision method | bind method | unbind method =>
      simp [method] at looking
  | describe =>
      exact ⟨_, rfl⟩

end

/-! ## Requests and what they reach -/

/-- A request that asks for an operation has it carried out, and the answer delivered. -/
theorem handle_of_asks
    {broker : Broker}
    {request : Request}
    {operation : Broker.Operation}
    (draws : Plan.Draws)
    (carries : request.Carries broker.login)
    (asks : request.Asks operation) :
    handle broker draws request =
      (broker.perform draws operation).andThen fun answer =>
        .done (deliver request (.ofAnswer answer)) := by
  simp only [handle, pass_eq_admitted_iff.mpr ⟨carries, asks⟩]

/-- A request that asks for nothing is answered with nobody asked. -/
theorem handle_of_unasked
    {broker : Broker}
    {request : Request}
    (draws : Plan.Draws)
    (unasked : ¬ (request.Carries broker.login ∧ ∃ operation, request.Asks operation)) :
    ∃ response, handle broker draws request = .done response ∧
      request.Declined broker response := by
  cases passage : pass broker request with
  | answered response =>
      exact ⟨deliver request response, by simp only [handle, passage],
        declined_of_answered passage⟩
  | admitted operation =>
      have ⟨carries, asks⟩ := pass_eq_admitted_iff.mp passage
      exact absurd ⟨carries, operation, asks⟩ unasked

/-- Looking an instance up takes one look at the store. -/
theorem calls_of_describing
    {id : String}
    {stores : List (Exchange storage)}
    {calls : List (Exchange administration)}
    {answer : Broker.Answer}
    (course : Broker.Describing id stores calls answer) :
    (∃ outcome, stores = [asked (.getInstance id) outcome]) ∧ calls = [] := by
  cases course <;> exact ⟨⟨_, rfl⟩, rfl⟩

/-- Looking an instance up turns to no server and leaves what the store holds. -/
theorem contents_of_describe
    {τ : Type}
    (broker : Broker)
    (vault : Vault)
    (server : (question : AdminQuestion) → τ → question.Outcome × τ)
    (draws : Plan.Draws)
    (id : String)
    (state : vault.State × τ) :
    let partner := Broker.respond vault.answer server
    let looking := broker.perform draws (.describe id)
    Broker.serverCalls (looking.exchanges partner state) = [] ∧
      vault.contents (looking.run partner state).2.1 = vault.contents state.1 := by
  intro partner looking
  have course : Broker.Describing id
      (Broker.storeCalls (looking.exchanges partner state))
      (Broker.serverCalls (looking.exchanges partner state))
      (looking.run partner state).1 :=
    Broker.proceeding_of_yields (yields_exchanges (P := Broker.surroundings) partner looking state)
  have leads := Broker.leads_store vault.honest server looking state
  obtain ⟨⟨outcome, stores⟩, uncalled⟩ := calls_of_describing course
  rw [stores] at leads
  obtain ⟨_, honest, unchanged⟩ := leads
  exact ⟨uncalled, unchanged.trans (honest.unchanged_of_reads rfl)⟩

/--
Nothing reaches the store or a server except through the gate.  A request that carries
the broker's login and asks for an operation has that operation carried out.  Every
other request leaves the store and the servers alone, and is answered 404 off the
places of the broker, 401 without the login, 405 for a wrong method, 400 for an
identifier or a body that is no use, or with the catalog.  GET and HEAD change nothing
and turn to no server.
-/
theorem reaches_only_when_asked
    {τ : Type}
    (broker : Broker)
    (vault : Vault)
    (server : (question : AdminQuestion) → τ → question.Outcome × τ)
    (draws : Plan.Draws)
    (request : Request)
    (state : vault.State × τ) :
    let partner := Broker.respond vault.answer server
    let exchanges := (handle broker draws request).exchanges partner state
    let result := (handle broker draws request).run partner state
    (∀ operation, request.Carries broker.login ∧ request.Asks operation →
      let performing := broker.perform draws operation
      exchanges = performing.exchanges partner state ∧
        result.1 = deliver request (.ofAnswer (performing.run partner state).1) ∧
        result.2 = (performing.run partner state).2) ∧
    (¬ (request.Carries broker.login ∧ ∃ operation, request.Asks operation) →
      exchanges = [] ∧ result.2 = state ∧ request.Declined broker result.1) ∧
    (request.method = "GET" ∨ request.method = "HEAD" →
      Broker.serverCalls exchanges = [] ∧
        vault.contents result.2.1 = vault.contents state.1) := by
  intro partner exchanges result
  have admitted (operation : Broker.Operation)
      (passes : request.Carries broker.login ∧ request.Asks operation) :
      exchanges = (broker.perform draws operation).exchanges partner state ∧
        result.1 = deliver request (.ofAnswer ((broker.perform draws operation).run partner state).1) ∧
        result.2 = ((broker.perform draws operation).run partner state).2 := by
    have handled := handle_of_asks draws passes.1 passes.2
    have course := exchanges_andThen partner (broker.perform draws operation)
      (fun answer => .done (deliver request (.ofAnswer answer))) state
    have ending := run_andThen partner (broker.perform draws operation)
      (fun answer => .done (deliver request (.ofAnswer answer))) state
    rw [← handled] at course ending
    exact ⟨course.trans (List.append_nil _), congrArg Prod.fst ending, congrArg Prod.snd ending⟩
  have declined
      (unasked : ¬ (request.Carries broker.login ∧ ∃ operation, request.Asks operation)) :
      exchanges = [] ∧ result.2 = state ∧ request.Declined broker result.1 := by
    obtain ⟨response, handled, answered⟩ := handle_of_unasked draws unasked
    simp only [exchanges, result, handled]
    exact ⟨rfl, rfl, answered⟩
  refine ⟨admitted, declined, fun looking => ?_⟩
  by_cases asked : request.Carries broker.login ∧ ∃ operation, request.Asks operation
  · obtain ⟨carries, operation, asks⟩ := asked
    obtain ⟨id, rfl⟩ := describe_of_looking asks looking
    obtain ⟨course, -, after⟩ := admitted _ ⟨carries, asks⟩
    rw [course, after]
    exact contents_of_describe broker vault server draws id state
  · obtain ⟨unasked, unchanged, -⟩ := declined asked
    rw [unasked, unchanged]
    exact ⟨rfl, rfl⟩

/-- An identifier is what its percent-encoded form in the path stands for. -/
example :
    Request.Asks ⟨"GET", "/v2/service_instances/a%20b?verbose", [], []⟩ (.describe "a b") :=
  .describe (Or.inl rfl) (by decide : _ = "/v2/service_instances/" ++ "a%20b")
    ⟨by decide, by decide +kernel, fun blank => absurd (blank 'a' (by decide)) (by decide)⟩

end GraphBroker.Gateway
