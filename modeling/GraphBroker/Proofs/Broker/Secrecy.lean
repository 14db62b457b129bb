import GraphBroker.Admin.Rehearsal
import GraphBroker.Proofs.Broker.History
import GraphBroker.Proofs.Plan.Configuration
import GraphBroker.Proofs.Store.Secrecy

namespace GraphBroker.Broker

open Dialogue Store Plan Json

/-!
# What answers say of an administrator's login

The login of an administrator is kept in the records of instances, is read again for
every later operation, and stands beside what is compared and what is handed out.
Two brokers that differ in such logins alone, and are given requests that differ in
such logins alone, go through everything side by side; if the servers do not tell the
logins apart, neither can whoever reads the answers.
-/

/-! ## Brokers that differ in a login -/

/-- Brokers with the same plans, but for the logins of configured servers. -/
structure Resembles (one other : Broker) : Prop where
  id : one.id = other.id
  plans : one.plans.Alike other.plans

section

variable {broker other : Broker}

/-- The catalog tells nothing of a login. -/
theorem Resembles.catalog_eq
    (resembles : broker.Resembles other) :
    broker.catalog = other.catalog := by
  unfold catalog
  rw [resembles.plans.catalogEntries_eq, resembles.id]

/-- Records alike but for the login name sites that are alike but for the login. -/
theorem matches_siteOf
    {plan otherPlan : Plan}
    (plans : plan.Resembles otherPlan)
    {record otherRecord : ServiceInstance}
    (records : record.Resembles otherRecord) :
    Matches Site.Resembles (plan.siteOf record) (otherPlan.siteOf otherRecord) := by
  unfold siteOf
  rw [← records.guid]
  exact (plans.matches_site? records.payload).mapError _

/-- The plan and the site of a record are found alike, but for the login. -/
theorem Resembles.matches_planOf
    (resembles : broker.Resembles other)
    {record otherRecord : ServiceInstance}
    (records : record.Resembles otherRecord) :
    Matches (fun one other => one.1.Resembles other.1 ∧ one.2.Resembles other.2)
      (broker.planOf record) (other.planOf otherRecord) := by
  have plans := resembles.plans.rel_find? record.planId
  unfold planOf
  rw [← records.planId, ← records.guid]
  generalize broker.plans.find? record.planId = plan at plans ⊢
  generalize other.plans.find? record.planId = otherPlan at plans ⊢
  cases plans with
  | none => exact .error _
  | @some plan otherPlan alike =>
      have sites := matches_siteOf alike records
      dsimp only
      generalize plan.siteOf record = site at sites ⊢
      generalize otherPlan.siteOf otherRecord = otherSite at sites ⊢
      cases sites with
      | ok sites => exact .ok ⟨alike, sites⟩
      | error error => exact .error _

end

/-! ## Operations side by side -/

/-- What a broker asks twice: a call on the store, or one on a server by whatever administrator. -/
def discreet : Coupling surroundings where
  Pair := TwoCalls ⊕ TwoLogins
  first
    | .inl calls => .store calls.first
    | .inr logins => .server (anyLogin.first logins)
  second
    | .inl calls => .store calls.second
    | .inr logins => .server (anyLogin.second logins)
  Meet
    | .inl calls, outcome, other => calls.Meet outcome other
    | .inr logins, outcome, other => anyLogin.Meet logins outcome other

/-- Steps of two brokers that differ in a login alone, and results that pass for each other. -/
abbrev Abreast (alike : α → β → Prop) (steps : Steps α) (others : Steps β) : Prop :=
  Parallel discreet (Matches alike) steps.run others.run

/-- Results that match are steps abreast. -/
theorem abreast_ofExcept
    {alike : α → β → Prop}
    {result : Except Error α}
    {other : Except Error β}
    (same : Matches alike result other) :
    Abreast alike (ofExcept result) (ofExcept other) :=
  .done same

/-- Two calls that differ in a login at most are asked of the store abreast. -/
theorem abreast_askStore
    (calls : TwoCalls) :
    Parallel discreet calls.Meet (askStore calls.first) (askStore calls.second) := by
  let pair : discreet.Pair := .inl calls
  refine .ask pair ?_
  intro outcome other meet
  exact .done meet

/-- A look-up finds the record in neither store, or in both. -/
theorem matches_found?
    {alike : α → α → Prop}
    {outcome other : Except Store.Error α}
    (same : Matches alike outcome other) :
    Matches (Option.Rel alike) (found? outcome) (found? other) := by
  cases same with
  | ok same =>
      exact .ok (.some same)
  | error error =>
      unfold found?
      dsimp only
      split
      · exact .ok .none
      · exact .error _

/-- Looking an instance up finds records that are alike but for the login. -/
theorem abreast_lookUpInstance
    (id : String) :
    Abreast (Option.Rel ServiceInstance.Resembles) (lookUpInstance id) (lookUpInstance id) := by
  refine (abreast_askStore (.same (.getInstance id))).andThen ?_
  intro outcome other meet
  exact .done (matches_found? meet)

/-- Looking a binding up finds the same record, since no login of a server is in it. -/
theorem abreast_lookUpBinding
    (id bindingId : String) :
    Abreast (Option.Rel Eq) (lookUpBinding id bindingId) (lookUpBinding id bindingId) := by
  refine (abreast_askStore (.same (.getBinding id bindingId))).andThen ?_
  rintro outcome _ rfl
  exact .done (matches_found? (.refl (fun _ => rfl) outcome))

/-- A call on the store with outcomes that match ends both operations, or neither. -/
theorem abreast_store
    (calls : TwoCalls)
    {alike : calls.first.Reply → calls.second.Reply → Prop}
    (meets : ∀ {outcome other}, calls.Meet outcome other → Matches alike outcome other)
    (report : Store.Error → Error) :
    Abreast alike (store calls.first report) (store calls.second report) := by
  refine (abreast_askStore calls).andThen ?_
  intro outcome other meet
  cases meets meet with
  | ok same => exact .done (.ok same)
  | error error => exact .done (.error _)

/-- Equal results match. -/
theorem matches_of_eq
    {outcome other : Except ε α}
    (same : outcome = other) :
    Matches Eq outcome other := by
  rw [same]
  exact .refl (fun _ => rfl) other

/-- Steps alongside each other are held on the servers abreast. -/
theorem abreast_onServers
    {steps : Plan.Steps α}
    {others : Plan.Steps β}
    {alike : α → β → Prop}
    (alongside : Alongside alike steps others) :
    Parallel discreet (Matches alike) (onServers steps) (onServers others) := by
  unfold onServers
  unfold Alongside at alongside
  generalize steps.run = dialogue at alongside ⊢
  generalize others.run = other at alongside ⊢
  induction alongside with
  | done same => exact .done same
  | ask logins onward inductionHypothesis =>
      let pair : discreet.Pair := .inr logins
      refine .ask pair ?_
      intro outcome other meet
      exact inductionHypothesis meet

/-- Steps alongside each other are taken abreast through plans that report failures alike. -/
theorem abreast_throughPlan
    {steps : Plan.Steps α}
    {others : Plan.Steps β}
    {alike : α → β → Prop}
    (alongside : Alongside alike steps others)
    (report : Plan.Error → Error) :
    Abreast alike (throughPlan steps report) (throughPlan others report) := by
  refine (abreast_onServers alongside).andThen ?_
  intro outcome other same
  cases same with
  | ok same => exact .done (.ok same)
  | error error => exact .done (.error _)

/-- The credentials of bindings are taken back by whatever administrator. -/
theorem abreast_sweep
    {server other : Server}
    (address : server.url = other.url)
    (bindings : List ServiceBinding) :
    Parallel discreet Eq (sweep server bindings) (sweep other bindings) := by
  induction bindings with
  | nil =>
      exact .done rfl
  | cons binding rest inductionHypothesis =>
      refine (abreast_onServers (alongside_unbind address binding)).andThen ?_
      intro outcome otherOutcome same
      exact inductionHypothesis

/-- Parallel dialogues are steps abreast that cannot fail. -/
theorem abreast_lift
    {alike : α → β → Prop}
    {dialogue : Dialogue surroundings α}
    {other : Dialogue surroundings β}
    (parallel : Parallel discreet alike dialogue other) :
    Abreast alike (ExceptT.lift dialogue) (ExceptT.lift other) :=
  parallel.andThen fun same => .done (.ok same)

/-! ## The operations -/

/-- The same operation, where the parameters of a new instance may differ in the login. -/
inductive Operation.Resembles : Operation → Operation → Prop where
  | same (operation : Operation) :
      Resembles operation operation
  | provision (key : String) (request : Api.ProvisionRequest) {parameters : Json}
      (same : SameButLogin request.parameters parameters) :
      Resembles (.provision key request) (.provision key { request with parameters })

/-- A record is what a request asks for, or not, whatever the logins are. -/
theorem fits_eq
    {plan otherPlan : Plan}
    (plans : plan.Resembles otherPlan)
    {site otherSite : Site}
    (sites : site.Resembles otherSite)
    {record otherRecord : ServiceInstance}
    (records : record.Resembles otherRecord)
    {request : Api.ProvisionRequest}
    {parameters : Json}
    (same : SameButLogin request.parameters parameters) :
    fits plan site record request = fits otherPlan otherSite otherRecord { request with parameters } := by
  unfold fits
  rw [records.organization, records.space, plans.id_eq, records.service,
    plans.describes_eq sites same]

section

variable {broker other : Broker}

/-- Provisioning runs abreast for two logins. -/
theorem abreast_provision
    (brokers : broker.Resembles other)
    (draws : Draws)
    (id : String)
    (request : Api.ProvisionRequest)
    {parameters : Json}
    (same : SameButLogin request.parameters parameters) :
    Abreast Eq (broker.provision draws id request)
      (other.provision draws id { request with parameters }) := by
  refine (abreast_lookUpInstance id).bind ?_
  intro found otherFound records
  cases records with
  | some records =>
      refine (abreast_ofExcept (brokers.matches_planOf records)).bind ?_
      rintro ⟨plan, site⟩ ⟨otherPlan, otherSite⟩ ⟨plans, sites⟩
      dsimp only
      rw [fits_eq plans sites records same]
      split
      · exact .done (Matches.ok rfl)
      · exact .done (Matches.error _)
  | none =>
      have offered := brokers.plans.rel_find? request.planId
      dsimp only
      generalize broker.plans.find? request.planId = plan at offered ⊢
      generalize other.plans.find? request.planId = otherPlan at offered ⊢
      cases offered with
      | none =>
          exact .done (Matches.error _)
      | some plans =>
          refine (abreast_throughPlan (plans.alongside_create draws same) .plan).bind ?_
          intro payload otherPayload payloads
          have records : (recordFor id request payload).Resembles
              (recordFor id { request with parameters } otherPayload) :=
            ⟨rfl, rfl, rfl, rfl, rfl, payloads⟩
          refine (abreast_store (.adding id records) matches_of_eq _).bind ?_
          rintro _ _ rfl
          exact .done (Matches.ok rfl)

/-- Describing runs abreast for two logins. -/
theorem abreast_describe
    (id : String) :
    Abreast Eq (describe id) (describe id) := by
  refine (abreast_lookUpInstance id).bind ?_
  intro found otherFound records
  cases records with
  | none => exact .done (Matches.error _)
  | some records => exact .done (Matches.ok rfl)

/-- Deprovisioning runs abreast for two logins. -/
theorem abreast_deprovision
    (brokers : broker.Resembles other)
    (id : String) :
    Abreast Eq (broker.deprovision id) (other.deprovision id) := by
  refine (abreast_lookUpInstance id).bind ?_
  intro found otherFound records
  cases records with
  | none =>
      exact .done (Matches.error _)
  | some records =>
      refine (abreast_ofExcept (brokers.matches_planOf records)).bind ?_
      rintro ⟨plan, site⟩ ⟨otherPlan, otherSite⟩ ⟨plans, sites⟩
      refine (abreast_store (.same (.getAllBindings id)) matches_of_eq .store).bind ?_
      rintro bindings _ rfl
      refine (abreast_lift (abreast_sweep sites.url bindings)).bind ?_
      rintro _ _ rfl
      refine (abreast_throughPlan (alongside_remove sites) .plan).bind ?_
      rintro _ _ rfl
      refine (abreast_store (.same (.deleteInstance id)) matches_of_eq _).bind ?_
      rintro _ _ rfl
      exact .done (Matches.ok rfl)

/-- Binding runs abreast for two logins, and hands out the same credentials. -/
theorem abreast_bind
    (brokers : broker.Resembles other)
    (draws : Draws)
    (id bindingId : String)
    (request : Api.BindRequest) :
    Abreast Eq (broker.bind draws id bindingId request)
      (other.bind draws id bindingId request) := by
  refine (abreast_lookUpInstance id).bind ?_
  intro found otherFound records
  cases records with
  | none =>
      exact .done (Matches.error _)
  | some records =>
      refine (abreast_ofExcept (brokers.matches_planOf records)).bind ?_
      rintro ⟨plan, site⟩ ⟨otherPlan, otherSite⟩ ⟨plans, sites⟩
      refine (abreast_lookUpBinding id bindingId).bind ?_
      intro binding otherBinding bindings
      cases bindings with
      | some same =>
          subst same
          dsimp only
          split
          · exact .done (Matches.ok rfl)
          · exact .done (Matches.error _)
      | none =>
          have issuing := plans.alongside_bind draws records.payload request.parameters
          refine (abreast_throughPlan issuing .plan).bind ?_
          rintro payload _ rfl
          refine (abreast_store (.same (.addBinding id bindingId ⟨bindingId, payload⟩))
            matches_of_eq _).bind ?_
          rintro _ _ rfl
          exact .done (Matches.ok rfl)

/-- Unbinding runs abreast for two logins. -/
theorem abreast_unbind
    (brokers : broker.Resembles other)
    (id bindingId : String) :
    Abreast Eq (broker.unbind id bindingId) (other.unbind id bindingId) := by
  refine (abreast_lookUpInstance id).bind ?_
  intro found otherFound records
  cases records with
  | none =>
      exact .done (Matches.error _)
  | some records =>
      refine (abreast_lookUpBinding id bindingId).bind ?_
      intro binding otherBinding bindings
      cases bindings with
      | none =>
          exact .done (Matches.error _)
      | some same =>
          subst same
          refine (abreast_ofExcept (brokers.matches_planOf records)).bind ?_
          rintro ⟨plan, site⟩ ⟨otherPlan, otherSite⟩ ⟨plans, sites⟩
          refine (abreast_store (.same (.deleteBinding id bindingId)) matches_of_eq .store).bind ?_
          rintro _ _ rfl
          refine (abreast_throughPlan (alongside_unbind sites.url _) .notRevoked).bind ?_
          rintro _ _ rfl
          exact .done (Matches.ok rfl)

/-- Two brokers that differ in a login alone carry operations out side by side. -/
theorem parallel_perform
    (brokers : broker.Resembles other)
    (draws : Draws)
    {operation otherOperation : Operation}
    (same : operation.Resembles otherOperation) :
    Parallel discreet (Matches Eq) (broker.perform draws operation)
      (other.perform draws otherOperation) := by
  cases same with
  | provision id request same =>
      exact abreast_provision brokers draws id request same
  | same operation =>
      cases operation with
      | provision id request => exact abreast_provision brokers draws id request (.same _)
      | describe id => exact abreast_describe id
      | deprovision id => exact abreast_deprovision brokers id
      | bind id bindingId request => exact abreast_bind brokers draws id bindingId request
      | unbind id bindingId => exact abreast_unbind brokers id bindingId

end

/-! ## Runs -/

/-- The same task, where the parameters of a new instance may differ in the login. -/
structure Task.Resembles (task other : Task) : Prop where
  draws : task.draws = other.draws
  operation : task.operation.Resembles other.operation

section

variable {τ : Type}
variable {server : (question : AdminQuestion) → τ → question.Outcome × τ}
variable {alike : τ → τ → Prop}

/-- The surroundings of two brokers: records that differ in logins, and servers that are alike. -/
def Indistinct (alike : τ → τ → Prop) (state other : Keeper.memory.State × τ) : Prop :=
  Memory.Resembles state.1 other.1 ∧ alike state.2 other.2

/-- If the servers do not tell logins apart, nothing in the surroundings of a broker does. -/
theorem kept_respond
    (blind : anyLogin.Kept alike server server) :
    discreet.Kept (Indistinct alike) (respond Keeper.memory.answer server)
      (respond Keeper.memory.answer server) := by
  rintro (calls | logins) ⟨records, others⟩ ⟨otherRecords, otherOthers⟩ ⟨resembles, same⟩
  · exact ⟨resembles.meet calls, resembles.answer calls, same⟩
  · obtain ⟨meet, later⟩ := blind logins same
    exact ⟨meet, resembles, later⟩

/--
One turn in two states that differ in a login at most has the same answer and leaves two such
states.
-/
theorem indistinct_carryOut
    {broker other : Broker}
    (brokers : broker.Resembles other)
    (blind : anyLogin.Kept alike server server)
    {task otherTask : Task}
    (tasks : task.Resembles otherTask)
    {state otherState : Keeper.memory.State × τ}
    (states : Indistinct alike state otherState) :
    (broker.carryOut .memory server task state).1 =
        (other.carryOut .memory server otherTask otherState).1 ∧
      Indistinct alike (broker.carryOut .memory server task state).2
        (other.carryOut .memory server otherTask otherState).2 := by
  have parallel := parallel_perform brokers task.draws tasks.operation
  obtain ⟨answers, later⟩ := parallel.run (kept_respond blind) states
  unfold carryOut
  rw [← tasks.draws]
  exact ⟨answers.eq, later⟩

/-- Brokers that differ in a login alone answer alike, whatever they are asked. -/
theorem answers_eq
    {broker other : Broker}
    (brokers : broker.Resembles other)
    (blind : anyLogin.Kept alike server server)
    {tasks otherTasks : List Task}
    (requests : List.Forall₂ Task.Resembles tasks otherTasks)
    {state otherState : Keeper.memory.State × τ}
    (states : Indistinct alike state otherState) :
    (broker.history .memory server tasks state).map Event.answer =
      (other.history .memory server otherTasks otherState).map Event.answer := by
  induction requests generalizing state otherState with
  | nil =>
      rfl
  | cons same later inductionHypothesis =>
      obtain ⟨answers, onward⟩ := indistinct_carryOut brokers blind same states
      exact congrArg₂ List.cons answers (inductionHypothesis onward)

/--
Nothing of an administrator's login gets into an answer.  Two configurations differ in the
logins for shared servers alone, and two sequences of requests in the names and passwords
alone with which instances are to be provisioned on servers of their own.  Then both
configurations are turned down with one error; or, with servers whose replies do not depend
on the login, the brokers give the same answers, and so the same statuses and bodies, and
show the same catalog.
-/
theorem answers_reveal_no_login
    {settings otherSettings : List PlanSetting}
    (configured : List.Forall₂ PlanSetting.Resembles settings otherSettings)
    (blind : anyLogin.Kept alike server server)
    {tasks otherTasks : List Task}
    (requests : List.Forall₂ Task.Resembles tasks otherTasks)
    {state otherState : Keeper.memory.State × τ}
    (states : Indistinct alike state otherState)
    (id : String)
    (login : Login) :
    Matches
      (fun plans otherPlans =>
        let broker : Broker := ⟨id, plans, login⟩
        let other : Broker := ⟨id, otherPlans, login⟩
        (broker.history .memory server tasks state).map Event.answer =
            (other.history .memory server otherTasks otherState).map Event.answer ∧
          broker.catalog = other.catalog)
      (Registry.ofSettings settings)
      (Registry.ofSettings otherSettings) := by
  have registries := matches_ofSettings configured
  generalize Registry.ofSettings settings = registry at registries ⊢
  generalize Registry.ofSettings otherSettings = otherRegistry at registries ⊢
  cases registries with
  | error error =>
      exact .error error
  | @ok plans otherPlans alike =>
      let broker : Broker := ⟨id, plans, login⟩
      let other : Broker := ⟨id, otherPlans, login⟩
      have brokers : broker.Resembles other := ⟨rfl, alike⟩
      exact .ok ⟨answers_eq brokers blind requests states, brokers.catalog_eq⟩

end

/-! ## Two administrators -/

/-- Rehearsals that were told the same, whatever calls they recorded. -/
def ToldAlike (one other : Rehearsal) : Prop :=
  one.failing = other.failing ∧ one.userExists = other.userExists

/-- A rehearsal does not tell logins apart. -/
theorem kept_rehearsal :
    anyLogin.Kept ToldAlike Rehearsal.answer Rehearsal.answer := by
  rintro ⟨url, login, otherLogin, call⟩ ⟨calls, failing, userExists⟩ ⟨others, _, _⟩ ⟨rfl, rfl⟩
  by_cases forced : call.operation ∈ failing
  · simp only [anyLogin, Rehearsal.answer, forced, if_true]
    exact ⟨rfl, rfl, rfl⟩
  · simp only [anyLogin, Rehearsal.answer, forced, if_false]
    exact ⟨rfl, rfl, rfl⟩

/-- A plan of each kind, and an administrator of the shared server. -/
def bothKinds (admin : Login) : List PlanSetting :=
  [⟨"perinstance", "own", .null⟩,
   ⟨"shared_database_plan", "shared",
     .object
       [("admin_password", .text admin.password), ("admin_username", .text admin.username),
        ("stardog_url", .text "http://server")]⟩]

/-- An instance of each kind with credentials for it, and an administrator of a server of its own. -/
def bothInstances (admin : Login) : List Task :=
  let parameters : Json :=
    .object
      [("password", .text admin.password), ("url", .text "http://own"),
       ("username", .text admin.username)]
  [⟨plainDraws, .provision "i1" ⟨"service", "own", "org", "space", parameters⟩⟩,
   ⟨plainDraws, .bind "i1" "b1" ⟨"service", "own", none, .null⟩⟩,
   ⟨plainDraws, .provision "i2" ⟨"service", "shared", "org", "space", .null⟩⟩,
   ⟨plainDraws, .bind "i2" "b2" ⟨"service", "shared", none, .null⟩⟩]

/-- Two brokers with other administrators, given other administrators, answer alike. -/
theorem answers_of_two_administrators :
    let one : Login := ⟨"admin", "secret"⟩
    let other : Login := ⟨"root", "hidden"⟩
    let start : Keeper.memory.State × Rehearsal := (Memory.empty, .start)
    (∃ plans, Registry.ofSettings (bothKinds one) = .ok plans) ∧
      List.Forall₂ PlanSetting.Resembles (bothKinds one) (bothKinds other) ∧
      anyLogin.Kept ToldAlike Rehearsal.answer Rehearsal.answer ∧
      List.Forall₂ Task.Resembles (bothInstances one) (bothInstances other) ∧
      Indistinct ToldAlike start start ∧
      Matches
        (fun plans otherPlans =>
          let broker : Broker := ⟨"broker", plans, ⟨"platform", "secret"⟩⟩
          let another : Broker := ⟨"broker", otherPlans, ⟨"platform", "secret"⟩⟩
          (broker.history .memory Rehearsal.answer (bothInstances one) start).map Event.answer =
              (another.history .memory Rehearsal.answer (bothInstances other) start).map
                Event.answer ∧
            broker.catalog = another.catalog)
        (Registry.ofSettings (bothKinds one))
        (Registry.ofSettings (bothKinds other)) := by
  intro one other start
  have configured : List.Forall₂ PlanSetting.Resembles (bothKinds one) (bothKinds other) := by
    refine .cons (.same _) (.cons (.shared "shared" (.object ?_)) .nil)
    exact .cons ⟨rfl, .text (Or.inr rfl) _ _⟩ (.cons ⟨rfl, .text (Or.inl rfl) _ _⟩
      (.cons ⟨rfl, .same _⟩ .nil))
  have unchanged (task : Task) : task.Resembles task := ⟨rfl, .same task.operation⟩
  have requests : List.Forall₂ Task.Resembles (bothInstances one) (bothInstances other) := by
    refine .cons ⟨rfl, .provision "i1" _ (.object ?_)⟩
      (.cons (unchanged _) (.cons (unchanged _) (.cons (unchanged _) .nil)))
    refine .cons ⟨rfl, .text (Or.inr ⟨rfl, by decide, by decide⟩)⟩ (.cons ⟨rfl, .same _⟩ ?_)
    exact .cons ⟨rfl, .text (Or.inl rfl)⟩ .nil
  have states : Indistinct ToldAlike start start := ⟨.refl Memory.empty, rfl, rfl⟩
  exact ⟨⟨_, rfl⟩, configured, kept_rehearsal, requests, states,
    answers_reveal_no_login configured kept_rehearsal requests states _ _⟩

end GraphBroker.Broker
