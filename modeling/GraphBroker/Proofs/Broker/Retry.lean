import GraphBroker.Proofs.Broker.Repetition

namespace GraphBroker.Broker

open Store Plan World

/-!
# Requests that are tried again

A request for credentials may fail on the way: the server does not say whether
the user exists, or it does not create the user, or it does not let the user in.
In the last case a user was made that no record tells of.  When the request comes
again and every call succeeds, that user stands in its way if it asks for the same
name, as any user does that was there from the start.
-/

/-- A call on a server that failed. -/
def Failed (call : Exchange administration) : Prop :=
  ∃ failure, (call.reply : call.question.Outcome) = .error failure

/-- A call succeeds and does what its name says. -/
def Serves
    (question : AdminQuestion)
    (before : World)
    (outcome : question.Outcome)
    (after : World) :
    Prop :=
  outcome = .ok (before.reply question) ∧ after = before.after question

theorem serves_unfailing
    (question : AdminQuestion)
    (state : World × Unit) :
    Serves question state.1 (World.answer unfailing question state).1
      (World.answer unfailing question state).2.1 :=
  ⟨rfl, rfl⟩

/-! ## Issuing credentials twice -/

section

variable {site : Site} {draws : Draws} {parameters : Json}
variable {calls : List (Exchange administration)} {outcome : Except Plan.Error Json}
variable {before after : World}

/-- Credentials whose issue failed leave a user behind only if it could not be let in. -/
theorem users_of_failed_issuing
    (issuing : Issuing site draws parameters calls outcome)
    (leads : Leads (P := administration) Obeys before calls after)
    (failed : ∃ call ∈ calls, Failed call)
    (username : String) :
    username ∈ (after site.server.url).users ↔
      username ∈ (before site.server.url).users ∨
        outcome = .error (.accessNotGranted site.database username) := by
  obtain ⟨call, member, failure, same⟩ := failed
  cases issuing with
  | malformed unreadable =>
      cases member
  | unchecked chosen =>
      obtain ⟨_, checked, rfl⟩ := leads
      cases checked
      simp
  | taken chosen =>
      obtain rfl := List.mem_singleton.mp member
      cases same
  | notCreated chosen =>
      obtain ⟨_, checked, _, created, rfl⟩ := leads
      obtain ⟨_, rfl⟩ := checked.of_ok
      cases created
      simp [World.after, AdminCall.effect]
  | notGranted chosen =>
      obtain ⟨_, checked, _, created, _, granted, rfl⟩ := leads
      obtain ⟨_, rfl⟩ := checked.of_ok
      obtain ⟨_, rfl⟩ := created.of_ok
      cases granted
      simp only [World.after, AdminCall.effect, if_true, List.mem_cons, chosen.fits.database,
        Except.error.injEq, Plan.Error.accessNotGranted.injEq, true_and]
      rw [or_comm, eq_comm]
  | issued chosen =>
      simp only [List.mem_cons, List.not_mem_nil, or_false] at member
      rcases member with rfl | rfl | rfl <;> cases same

/-- Where a call fails, the parameters chose a user and no credentials are issued. -/
theorem chosen_of_failed_issuing
    (issuing : Issuing site draws parameters calls outcome)
    (failed : ∃ call ∈ calls, Failed call) :
    (∃ choice, project LoginChoice.codec .blank parameters = .ok choice) ∧
      ∃ failure, outcome = .error failure := by
  have read_of_chosen {credentials : Credentials}
      (chosen : site.Chooses draws parameters credentials) :
      ∃ choice, project LoginChoice.codec .blank parameters = .ok choice := by
    cases read : project LoginChoice.codec .blank parameters with
    | ok choice =>
        exact ⟨choice, rfl⟩
    | error error =>
        simp [Site.Chooses, read, Except.map] at chosen
  obtain ⟨call, member, failure, same⟩ := failed
  cases issuing with
  | malformed unreadable =>
      cases member
  | unchecked chosen | taken chosen | notCreated chosen | notGranted chosen =>
      exact ⟨read_of_chosen chosen, _, rfl⟩
  | issued chosen =>
      simp only [List.mem_cons, List.not_mem_nil, or_false] at member
      rcases member with rfl | rfl | rfl <;> cases same

/-- If no call fails, credentials are issued unless their user is there already. -/
theorem outcome_of_served_issuing
    {choice : LoginChoice}
    (issuing : Issuing site draws parameters calls outcome)
    (leads : Leads (P := administration) Serves before calls after)
    (read : project LoginChoice.codec .blank parameters = .ok choice) :
    outcome =
      let wanted := site.credentials draws choice
      if wanted.username ∈ (before site.server.url).users then
        .error (.userExists wanted.username)
      else
        .ok wanted.payload := by
  have wanted_of_chosen {credentials : Credentials}
      (chosen : site.Chooses draws parameters credentials) :
      credentials = site.credentials draws choice := by
    simpa [Site.Chooses, read, Except.map, eq_comm] using chosen
  cases issuing with
  | malformed unreadable =>
      rw [read] at unreadable
      cases unreadable
  | unchecked chosen =>
      obtain ⟨_, ⟨served, _⟩, _⟩ := leads
      cases served
  | taken chosen =>
      obtain ⟨_, ⟨served, _⟩, _⟩ := leads
      obtain rfl := wanted_of_chosen chosen
      have known : (site.credentials draws choice).username ∈ (before site.server.url).users :=
        of_decide_eq_true (Except.ok.inj served).symm
      simp [known]
  | notCreated chosen =>
      obtain ⟨_, _, _, ⟨served, _⟩, _⟩ := leads
      cases served
  | notGranted chosen =>
      obtain ⟨_, _, _, _, _, ⟨served, _⟩, _⟩ := leads
      cases served
  | issued chosen =>
      obtain ⟨_, ⟨served, _⟩, _⟩ := leads
      obtain rfl := wanted_of_chosen chosen
      have unknown : (site.credentials draws choice).username ∉ (before site.server.url).users :=
        of_decide_eq_false (Except.ok.inj served).symm
      simp [unknown]

end

/-! ## Binding twice -/

section

variable {broker : Broker} {draws : Draws} {id bindingId : String} {request : Api.BindRequest}
variable {stores : List (Exchange storage)} {calls : List (Exchange administration)}
variable {answer : Answer} {before after : Memory}

/-- A server is called only for a new binding of an instance that the broker can use. -/
theorem open_of_called_binding
    (course : Binding broker draws id bindingId request stores calls answer)
    (leads : Leads (P := storage) Exact before stores after)
    (called : calls ≠ []) :
    ∃ record plan site,
      before.instance? id = some record ∧
        broker.planOf record = .ok (plan, site) ∧
        before.binding? id bindingId = none := by
  cases course with
  | lookUpFailed failed | missing absent | unusable unusable | bindingLookUpFailed usable failed
  | same usable fitting | different usable unfitting =>
      exact absurd rfl called
  | notIssued usable absent issuing | notRecorded usable absent issuing
  | bound usable absent issuing =>
      obtain ⟨recorded, next⟩ := found rfl leads
      have unbound : before.binding? id bindingId = none := missed rfl next
      exact ⟨_, _, _, recorded, usable, unbound⟩

/-- Where there is no binding yet, the answer tells what came of issuing credentials. -/
theorem issuing_of_open_binding
    {record : ServiceInstance}
    {plan : Plan}
    {site : Site}
    (course : Binding broker draws id bindingId request stores calls answer)
    (leads : Leads (P := storage) Exact before stores after)
    (recorded : before.instance? id = some record)
    (usable : broker.planOf record = .ok (plan, site))
    (unbound : before.binding? id bindingId = none) :
    (∃ failure, Issuing site draws request.parameters calls (.error failure) ∧
      answer = .error (.plan failure) ∧ after = before) ∨
    ∃ payload, Issuing site draws request.parameters calls (.ok payload) ∧
      answer = .ok (.bound payload) ∧
        after.binding? id bindingId = some ⟨bindingId, payload⟩ := by
  cases course with
  | lookUpFailed failed | missing absent =>
      have missing : before.instance? id = none := missed rfl leads
      rw [missing] at recorded
      cases recorded
  | unusable unusable =>
      obtain ⟨found, _⟩ := found rfl leads
      cases recorded.symm.trans found
      rw [usable] at unusable
      cases unusable
  | bindingLookUpFailed located failed =>
      obtain ⟨_, next⟩ := found rfl leads
      exact absurd failed (not_failed rfl rfl next)
  | same located fitting | different located unfitting =>
      obtain ⟨_, next⟩ := found rfl leads
      obtain ⟨held, _⟩ := found rfl next
      cases unbound.symm.trans held
  | notIssued located absent issuing =>
      obtain ⟨found, next⟩ := found rfl leads
      obtain ⟨_, rfl⟩ := leads_of_reads Exact.allows rfl next
      cases recorded.symm.trans found
      rw [usable] at located
      cases located
      exact Or.inl ⟨_, issuing, rfl, rfl⟩
  | notRecorded located absent issuing =>
      obtain ⟨_, next⟩ := found rfl leads
      obtain ⟨_, _, refused, _⟩ := leads_of_reads Exact.allows rfl next
      rcases refused.refuses_of_error with missing | taken
      · rw [recorded] at missing
        cases missing
      · exact absurd unbound taken
  | bound located absent issuing =>
      obtain ⟨found, next⟩ := found rfl leads
      obtain ⟨_, _, added, rfl⟩ := leads_of_reads Exact.allows rfl next
      cases recorded.symm.trans found
      rw [usable] at located
      cases located
      refine Or.inr ⟨_, issuing, rfl, ?_⟩
      rw [added.allows.binding?_of_ok]
      simp [Call.bindingAfter]

/-- Where there is no binding yet and no call fails, it depends on the user alone what is answered. -/
theorem answer_of_served_binding
    {record : ServiceInstance}
    {plan : Plan}
    {site : Site}
    {choice : LoginChoice}
    {world later : World}
    (course : Binding broker draws id bindingId request stores calls answer)
    (leads : Leads (P := storage) Exact before stores after)
    (served : Leads (P := administration) Serves world calls later)
    (recorded : before.instance? id = some record)
    (usable : broker.planOf record = .ok (plan, site))
    (unbound : before.binding? id bindingId = none)
    (read : project LoginChoice.codec .blank request.parameters = .ok choice) :
    let wanted := site.credentials draws choice
    (wanted.username ∈ (world site.server.url).users →
      answer = .error (.plan (.userExists wanted.username)) ∧ after = before) ∧
    (wanted.username ∉ (world site.server.url).users →
      answer = .ok (.bound wanted.payload) ∧
        after.binding? id bindingId = some ⟨bindingId, wanted.payload⟩) := by
  intro wanted
  have opened := issuing_of_open_binding course leads recorded usable unbound
  rcases opened with ⟨failure, issuing, rfl, same⟩ | ⟨payload, issuing, rfl, held⟩
  · have outcome := outcome_of_served_issuing issuing served read
    constructor
    · intro known
      rw [if_pos known] at outcome
      cases outcome
      exact ⟨rfl, same⟩
    · intro unknown
      rw [if_neg unknown] at outcome
      cases outcome
  · have outcome := outcome_of_served_issuing issuing served read
    constructor
    · intro known
      rw [if_pos known] at outcome
      cases outcome
    · intro unknown
      rw [if_neg unknown] at outcome
      cases outcome
      exact ⟨rfl, held⟩

end

/--
A request for credentials during which a call on a server failed arrives again, and
no call fails any more.  Whatever failed, it finds its instance and no binding.  It
is answered with new credentials, which are then on record, unless their user was
there before the first request or was made by it and could not be let in.
-/
theorem answer_of_retried_bind
    {φ : Type}
    (broker : Broker)
    {keeper : Keeper}
    (reliable : keeper.Reliable)
    (fault : AdminQuestion → φ → Option Remote.Failure × φ)
    (state : keeper.State × (World × φ))
    (draws again : Draws)
    (id bindingId : String)
    (request : Api.BindRequest)
    (failed :
      ∃ call ∈ (broker.seen keeper (World.answer fault)
          ⟨draws, .bind id bindingId request⟩ state).calls,
        Failed call) :
    let first := broker.carryOut keeper (World.answer fault) ⟨draws, .bind id bindingId request⟩ state
    let second :=
      broker.carryOut keeper (World.answer unfailing) ⟨again, .bind id bindingId request⟩
        (first.2.1, (first.2.2.1, ()))
    ∃ record plan site choice,
      (keeper.records state.1).instance? id = some record ∧
        broker.planOf record = .ok (plan, site) ∧
        project LoginChoice.codec .blank request.parameters = .ok choice ∧
        let wanted := site.credentials again choice
        let inTheWay :=
          wanted.username ∈ (state.2.1 site.server.url).users ∨
            first.1 = .error (.plan (.accessNotGranted site.database wanted.username))
        (inTheWay →
          second.1 = .error (.plan (.userExists wanted.username)) ∧
            keeper.records second.2.1 = keeper.records state.1) ∧
        (¬ inTheWay →
          second.1 = .ok (.bound wanted.payload) ∧
            (keeper.records second.2.1).binding? id bindingId =
              some ⟨bindingId, wanted.payload⟩) := by
  intro first second
  let task : Task := ⟨draws, .bind id bindingId request⟩
  let retry : Task := ⟨again, .bind id bindingId request⟩
  let middle : keeper.State × (World × Unit) := (first.2.1, (first.2.2.1, ()))
  -- The first request: what it found, and what it left behind.
  have firstCourse : Binding broker draws id bindingId request
      (storeCalls (broker.conversation keeper (World.answer fault) task state))
      (broker.seen keeper (World.answer fault) task state).calls
      first.1 :=
    proceeding_of_task task state
  have firstLeads : Leads (P := storage) Exact (keeper.records state.1)
      (storeCalls (broker.conversation keeper (World.answer fault) task state))
      (keeper.records first.2.1) :=
    exact_of_bind_task reliable draws request state
  have firstServed : Leads (P := administration) Obeys state.2.1
      (broker.seen keeper (World.answer fault) task state).calls first.2.2.1 :=
    leads_servers (obeys_answer fault) task state
  have called : (broker.seen keeper (World.answer fault) task state).calls ≠ [] := by
    obtain ⟨call, member, _⟩ := failed
    exact List.ne_nil_of_mem member
  obtain ⟨record, plan, site, recorded, usable, unbound⟩ :=
    open_of_called_binding firstCourse firstLeads called
  have opened := issuing_of_open_binding firstCourse firstLeads recorded usable unbound
  rcases opened with ⟨failure, issuing, failing, unchanged⟩ | ⟨payload, issuing, _⟩
  case inr =>
    obtain ⟨_, failure, impossible⟩ := chosen_of_failed_issuing issuing failed
    cases impossible
  obtain ⟨⟨choice, read⟩, _⟩ := chosen_of_failed_issuing issuing failed
  let wanted : Credentials := site.credentials again choice
  have known : wanted.username ∈ (middle.2.1 site.server.url).users ↔
      wanted.username ∈ (state.2.1 site.server.url).users ∨
        first.1 = .error (.plan (.accessNotGranted site.database wanted.username)) := by
    have left := users_of_failed_issuing issuing firstServed failed wanted.username
    simpa [middle, failing] using left
  -- The second request finds the same records, and servers with or without the user.
  have secondCourse : Binding broker again id bindingId request
      (storeCalls (broker.conversation keeper (World.answer unfailing) retry middle))
      (broker.seen keeper (World.answer unfailing) retry middle).calls
      second.1 :=
    proceeding_of_task retry middle
  have secondLeads : Leads (P := storage) Exact (keeper.records first.2.1)
      (storeCalls (broker.conversation keeper (World.answer unfailing) retry middle))
      (keeper.records second.2.1) :=
    exact_of_bind_task reliable again request middle
  have secondServed : Leads (P := administration) Serves first.2.2.1
      (broker.seen keeper (World.answer unfailing) retry middle).calls second.2.2.1 :=
    leads_servers serves_unfailing retry middle
  rw [unchanged] at secondLeads
  have outcome :=
    answer_of_served_binding secondCourse secondLeads secondServed recorded usable unbound read
  refine ⟨record, plan, site, choice, recorded, usable, read, ?_, ?_⟩
  · intro inTheWay
    exact outcome.1 (known.mpr inTheWay)
  · intro nobody
    exact outcome.2 (fun present => nobody (known.mp present))

/-! ## Two requests -/

/-- Servers on which calls of one kind fail. -/
def failingAt
    (operation : AdminOperation)
    (question : AdminQuestion)
    (script : Unit) :
    Option Remote.Failure × Unit :=
  if question.call.operation = operation then
    (some (.defective (.forced operation)), script)
  else
    (none, script)

/-- A user that could not be created is created when the request comes again. -/
theorem bound_after_failed_creation :
    let bob : Credentials := ⟨"alpha", "http://server", "bob", "pw"⟩
    let task : Task := ⟨plainDraws, .bind "i1" "b1" chosenRequest⟩
    let failing := World.answer (failingAt .newUser)
    let first := soleServer.carryOut Keeper.memory failing task settled
    let second := soleServer.carryOut Keeper.memory (World.answer unfailing) task first.2
    (∃ call ∈ (soleServer.seen Keeper.memory failing task settled).calls, Failed call) ∧
      second.1 = .ok (.bound bob.payload) := by
  intro bob task failing first second
  have failed : ∃ call ∈ (soleServer.seen Keeper.memory failing task settled).calls,
      Failed call :=
    ⟨_, List.mem_cons_of_mem _ (List.mem_cons_self ..), _, rfl⟩
  obtain ⟨record, plan, site, choice, recorded, usable, read, _, granted⟩ :=
    answer_of_retried_bind soleServer Keeper.reliable_memory (failingAt .newUser) settled
      plainDraws plainDraws "i1" "b1" chosenRequest failed
  cases recorded
  cases usable
  cases read
  have unknown : "bob" ∉ (settled.2.1 "http://server").users := by decide
  have notCreated : first.1 = .error (.plan .userNotCreated) := rfl
  refine ⟨failed, (granted ?_).1⟩
  rintro (known | notGranted)
  · exact unknown known
  · cases notCreated.symm.trans notGranted

/-- A user that could not be let in is in the way when the request comes again. -/
theorem conflict_after_failed_grant :
    let task : Task := ⟨plainDraws, .bind "i1" "b1" chosenRequest⟩
    let failing := World.answer (failingAt .grantAccess)
    let first := soleServer.carryOut Keeper.memory failing task settled
    let second := soleServer.carryOut Keeper.memory (World.answer unfailing) task first.2
    "bob" ∉ (settled.2.1 "http://server").users ∧
      first.1.status = 500 ∧
      second.1.status = 409 := by
  decide

end GraphBroker.Broker
