import GraphBroker.Proofs.Broker.Repetition

namespace GraphBroker.Broker

open Store Plan

/-!
# Issuing credentials

Credentials are issued in three calls and recorded in a fourth step.  The calls have a
fixed order and end with the first that does not go well; the binding is recorded if all
of them went well and the store took the record.  What the caller is then handed is what
was recorded, and it is what a later request for the same user is answered with.
-/

/-- The calls by which credentials are issued, where all of them go well. -/
def grantedCalls (server : Server) (credentials : Credentials) : List (Exchange administration) :=
  [called server (.userExists credentials.username) (.ok false),
   called server (.newUser credentials.username credentials.password) (.ok ()),
   called server (.grantAccess credentials.database credentials.username) (.ok ())]

/-- Why no call is made after this one: it failed, or it told that the user exists already. -/
def stop? : Exchange administration → Option Plan.Error
  | ⟨⟨_, .userExists _⟩, .error _⟩ => some .userCheckFailed
  | ⟨⟨_, .userExists username⟩, .ok true⟩ => some (.userExists username)
  | ⟨⟨_, .newUser _ _⟩, .error _⟩ => some .userNotCreated
  | ⟨⟨_, .grantAccess database username⟩, .error _⟩ => some (.accessNotGranted database username)
  | _ => none

/--
What comes of a request for credentials under an identifier without a binding: either
everything that belongs to the credentials is there, or the answer is an error.
-/
structure AllOrError
    (server : Server)
    (credentials : Credentials)
    (id bindingId : String)
    (stores : List (Exchange storage))
    (calls : List (Exchange administration))
    (answer : Answer)
    (before after : Memory) :
    Prop where
  /-- The calls are made in their order. -/
  inOrder :
    calls.map Exchange.question <+: (grantedCalls server credentials).map Exchange.question
  /-- No call is made after one that stops. -/
  goesOn : ∀ exchange ∈ calls.dropLast, stop? exchange = none
  /-- Only a call that stops keeps the next one from being made. -/
  complete : (∀ exchange ∈ calls, stop? exchange = none) → calls = grantedCalls server credentials
  /-- Where a call stops, that is reported: with 409 if it found the user, with 500 if it failed. -/
  stopped :
    ∀ exchange ∈ calls, ∀ error, stop? exchange = some error →
      answer = .error (.plan error) ∧
        answer.status = if succeeds .userExists exchange then 409 else 500
  /-- The binding is recorded just if all the calls went well and the store took the record. -/
  recorded_iff :
    after.binding? id bindingId ≠ none ↔
      calls = grantedCalls server credentials ∧
        asked (.addBinding id bindingId ⟨bindingId, credentials.payload⟩) (.ok ()) ∈ stores
  /-- What is handed out is what is recorded. -/
  handedOut :
    after.binding? id bindingId ≠ none →
      answer = .ok (.bound credentials.payload) ∧ answer.status = 201 ∧
        after.binding? id bindingId = some ⟨bindingId, credentials.payload⟩
  /-- Credentials that the store did not take are not handed out. -/
  lost :
    after.binding? id bindingId = none →
    calls = grantedCalls server credentials →
      (∃ error, answer = .error (.bindingNotRecorded bindingId error)) ∧ answer.status = 500
  unchanged : after.binding? id bindingId = none → after = before

/-! ## One issuing -/

section

variable {broker : Broker} {draws : Draws} {id bindingId : String} {request : Api.BindRequest}
variable {stores : List (Exchange storage)} {calls : List (Exchange administration)}
variable {answer : Answer} {before after : Memory}
variable {record : ServiceInstance} {plan : Plan} {site : Site}

/-- What is recorded and answered once the issuing of credentials came to an end. -/
inductive Filing
    (id bindingId : String)
    (stores : List (Exchange storage))
    (before : Memory) :
    Except Plan.Error Json → Answer → Memory → Prop where
  | notIssued {failure : Plan.Error}
      (unwritten : ∀ binding, asked (.addBinding id bindingId binding) (.ok ()) ∉ stores) :
      Filing id bindingId stores before (.error failure) (.error (.plan failure)) before
  | lost {payload : Json} {error : Store.Error}
      (unwritten : ∀ binding, asked (.addBinding id bindingId binding) (.ok ()) ∉ stores) :
      Filing id bindingId stores before
        (.ok payload) (.error (.bindingNotRecorded bindingId error)) before
  | filed {payload : Json} {after : Memory}
      (written : asked (.addBinding id bindingId ⟨bindingId, payload⟩) (.ok ()) ∈ stores)
      (added : Allows (.addBinding id bindingId ⟨bindingId, payload⟩) before (.ok ()) after) :
      Filing id bindingId stores before (.ok payload) (.ok (.bound payload)) after

/-- Where a binding is not on record, credentials are issued, and then recorded. -/
theorem filing_of_binding
    (course : Binding broker draws id bindingId request stores calls answer)
    (leads : Leads (P := storage) Faithful before stores after)
    (recorded : before.instance? id = some record)
    (usable : broker.planOf record = .ok (plan, site))
    (unbound : before.binding? id bindingId = none) :
    ∃ outcome,
      Issuing site draws request.parameters calls outcome ∧
        Filing id bindingId stores before outcome answer after := by
  cases course with
  | lookUpFailed | missing =>
      obtain ⟨impossible, _⟩ := Faithful.found_first leads recorded
      cases impossible
  | unusable unusable =>
      obtain ⟨same, _⟩ := Faithful.found_first leads recorded
      cases same
      rw [usable] at unusable
      cases unusable
  | bindingLookUpFailed located failed =>
      obtain ⟨_, next⟩ := Faithful.found_first leads recorded
      obtain ⟨error, same, absent⟩ := (Faithful.found_next next).2.1 unbound
      cases same
      rw [absent] at failed
      cases failed
  | same | different =>
      obtain ⟨_, next⟩ := Faithful.found_first leads recorded
      obtain ⟨_, impossible, _⟩ := (Faithful.found_next next).2.1 unbound
      cases impossible
  | notIssued located absent issuing =>
      obtain ⟨same, next⟩ := Faithful.found_first leads recorded
      cases same
      rw [usable] at located
      cases located
      obtain rfl : after = before := (Faithful.found_next next).2.2
      refine ⟨_, issuing, .notIssued ?_⟩
      rintro binding (_ | ⟨_, _ | ⟨_, ⟨⟩⟩⟩)
  | notRecorded located absent issuing =>
      obtain ⟨same, next⟩ := Faithful.found_first leads recorded
      cases same
      rw [usable] at located
      cases located
      obtain ⟨_, failed, rfl⟩ := (Faithful.found_next next).2.2
      obtain rfl := failed.allows.unchanged_of_error
      refine ⟨_, issuing, .lost ?_⟩
      rintro binding (_ | ⟨_, _ | ⟨_, _ | ⟨_, ⟨⟩⟩⟩⟩)
  | bound located absent issuing =>
      obtain ⟨same, next⟩ := Faithful.found_first leads recorded
      cases same
      rw [usable] at located
      cases located
      obtain ⟨_, added, rfl⟩ := (Faithful.found_next next).2.2
      exact ⟨_, issuing, .filed (by simp) added.allows⟩

/-- Where all calls go well, none of them stops. -/
theorem stop?_granted
    {server : Server}
    {credentials : Credentials} :
    ∀ exchange ∈ grantedCalls server credentials, stop? exchange = none := by
  simp [grantedCalls, stop?]

/-- An issue stops with a conflict when the question whether the user exists succeeds. -/
theorem status_of_stop?
    {exchange : Exchange administration}
    {failure : Plan.Error}
    (stops : stop? exchange = some failure) :
    failure.status = if succeeds .userExists exchange then 409 else 500 := by
  unfold stop? at stops
  split at stops
  · cases stops
    rfl
  · cases stops
    rfl
  · cases stops
    rfl
  · cases stops
    rfl
  · cases stops

/-- Parameters that do not have the shape of a choice are turned down before any call. -/
theorem refused_of_issuing
    {parameters : Json}
    {outcome : Except Plan.Error Json}
    {error : Json.ReadError}
    (unreadable : project LoginChoice.codec .blank parameters = .error error)
    (issuing : Issuing site draws parameters calls outcome)
    (filing : Filing id bindingId stores before outcome answer after) :
    answer = .error (.plan .malformedParameters) ∧ answer.status = 400 ∧ calls = [] ∧
      after = before := by
  cases issuing with
  | malformed =>
      cases filing with
      | notIssued =>
          exact ⟨rfl, rfl, rfl, rfl⟩
  | unchecked chosen | taken chosen | notCreated chosen | notGranted chosen | issued chosen =>
      unfold Site.Chooses at chosen
      rw [unreadable] at chosen
      cases chosen

/-- Issuing credentials leaves the instance as it is on record. -/
theorem instance_of_filing
    {outcome : Except Plan.Error Json}
    (filing : Filing id bindingId stores before outcome answer after) :
    after.instance? id = before.instance? id := by
  cases filing with
  | notIssued | lost =>
      rfl
  | filed written added =>
      rw [added.instance?_of_ok]
      rfl

namespace AllOrError

variable {server : Server} {credentials : Credentials}

/-- A call that stops leaves an error, whichever of the calls it is. -/
theorem of_stop
    (earlier : List (Exchange administration))
    (last : Exchange administration)
    {failure : Plan.Error}
    (inOrder :
      (earlier ++ [last]).map Exchange.question <+:
        (grantedCalls server credentials).map Exchange.question)
    (goesOn : ∀ exchange ∈ earlier, stop? exchange = none)
    (stops : stop? last = some failure)
    (unwritten : ∀ binding, asked (.addBinding id bindingId binding) (.ok ()) ∉ stores)
    (unbound : before.binding? id bindingId = none) :
    AllOrError server credentials id bindingId stores (earlier ++ [last])
      (.error (.plan failure)) before before := by
  have incomplete : earlier ++ [last] ≠ grantedCalls server credentials := by
    intro same
    have member : last ∈ grantedCalls server credentials := by
      simp [← same]
    have goes := stop?_granted last member
    rw [stops] at goes
    cases goes
  refine {
    inOrder := inOrder
    goesOn := by simpa using goesOn
    complete := ?_
    stopped := ?_
    recorded_iff := ?_
    handedOut := fun recorded => absurd unbound recorded
    lost := fun _ whole => absurd whole incomplete
    unchanged := fun _ => rfl
  }
  · intro all
    have goes : stop? last = none := all last (by simp)
    rw [stops] at goes
    cases goes
  · intro exchange member error stopped
    rcases List.mem_append.mp member with before | here
    · rw [goesOn exchange before] at stopped
      cases stopped
    · obtain rfl := List.mem_singleton.mp here
      rw [stops] at stopped
      cases stopped
      exact ⟨rfl, status_of_stop? stops⟩
  · exact iff_of_false (not_not.mpr unbound) fun all => unwritten _ all.2

/-- Where all calls go well, it is up to the store whether there are credentials. -/
theorem of_granted
    (filing : Filing id bindingId stores before (.ok credentials.payload) answer after)
    (unbound : before.binding? id bindingId = none) :
    AllOrError server credentials id bindingId stores (grantedCalls server credentials)
      answer before after := by
  have goesOn : ∀ exchange ∈ (grantedCalls server credentials).dropLast, stop? exchange = none :=
    fun exchange member => stop?_granted exchange (List.dropLast_subset _ member)
  have never {exchange : Exchange administration} {error : Plan.Error}
      (member : exchange ∈ grantedCalls server credentials) :
      stop? exchange ≠ some error := by
    simp [stop?_granted exchange member]
  cases filing with
  | lost unwritten =>
      exact {
        inOrder := List.prefix_rfl
        goesOn := goesOn
        complete := fun _ => rfl
        stopped := fun _ member _ stops => absurd stops (never member)
        recorded_iff := iff_of_false (not_not.mpr unbound) fun all => unwritten _ all.2
        handedOut := fun recorded => absurd unbound recorded
        lost := fun _ _ => ⟨⟨_, rfl⟩, rfl⟩
        unchanged := fun _ => rfl
      }
  | filed written added =>
      have recorded : after.binding? id bindingId = some ⟨bindingId, credentials.payload⟩ := by
        rw [added.binding?_of_ok]
        simp [Call.bindingAfter]
      have held : after.binding? id bindingId ≠ none := by
        simp [recorded]
      exact {
        inOrder := List.prefix_rfl
        goesOn := goesOn
        complete := fun _ => rfl
        stopped := fun _ member _ stops => absurd stops (never member)
        recorded_iff := iff_of_true held ⟨rfl, written⟩
        handedOut := fun _ => ⟨rfl, rfl, recorded⟩
        lost := fun missing => absurd missing held
        unchanged := fun missing => absurd missing held
      }

/-- However the issuing of chosen credentials goes, it is all or an error. -/
theorem of_issuing
    {choice : LoginChoice}
    {parameters : Json}
    {outcome : Except Plan.Error Json}
    (read : project LoginChoice.codec .blank parameters = .ok choice)
    (issuing : Issuing site draws parameters calls outcome)
    (filing : Filing id bindingId stores before outcome answer after)
    (unbound : before.binding? id bindingId = none) :
    AllOrError site.server (site.credentials draws choice) id bindingId stores calls
      answer before after := by
  have same {credentials : Credentials} (chosen : site.Chooses draws parameters credentials) :
      credentials = site.credentials draws choice := by
    unfold Site.Chooses at chosen
    rw [read] at chosen
    cases chosen
    rfl
  cases issuing with
  | malformed unreadable =>
      rw [read] at unreadable
      cases unreadable
  | unchecked chosen =>
      obtain rfl := same chosen
      cases filing with
      | notIssued unwritten =>
          exact of_stop [] _ ⟨_, rfl⟩ (by simp) rfl unwritten unbound
  | taken chosen =>
      obtain rfl := same chosen
      cases filing with
      | notIssued unwritten =>
          exact of_stop [] _ ⟨_, rfl⟩ (by simp) rfl unwritten unbound
  | notCreated chosen =>
      obtain rfl := same chosen
      cases filing with
      | notIssued unwritten =>
          exact of_stop [_] _ ⟨_, rfl⟩ (by simp [stop?]) rfl unwritten unbound
  | notGranted chosen =>
      obtain rfl := same chosen
      cases filing with
      | notIssued unwritten =>
          exact of_stop [_, _] _ ⟨_, rfl⟩ (by simp [stop?]) rfl unwritten unbound
  | issued chosen =>
      obtain rfl := same chosen
      exact of_granted filing unbound

end AllOrError

/-- Parameters ask for the credentials of a binding if they name its user and its password. -/
theorem sameCredentials_payload_iff
    {credentials : Credentials}
    {parameters : Json} :
    sameCredentials ⟨bindingId, credentials.payload⟩ parameters = true ↔
      project LoginChoice.codec .blank parameters =
        .ok ⟨credentials.username, credentials.password⟩ := by
  cases read : project LoginChoice.codec .blank parameters with
  | error error =>
      simp [sameCredentials, read]
  | ok choice =>
      obtain ⟨username, password⟩ := choice
      simp [sameCredentials, read, Credentials.project_payload]

end

/-! ## Histories -/

section

variable {τ : Type} {broker : Broker} {keeper : Keeper} {id bindingId : String}
variable {server : (question : AdminQuestion) → τ → question.Outcome × τ}

/-- What a task asks of a store that never fails to look up is answered faithfully. -/
theorem faithful_of_task
    (reads : keeper.ReadsReliably)
    (task : Task)
    (state : keeper.State × τ) :
    Leads (P := storage) Faithful (keeper.records state.1)
      (storeCalls (broker.conversation keeper server task state))
      (keeper.records (broker.carryOut keeper server task state).2.1) :=
  leads_records reads.faithful task state

/-- Credentials on record answer every later request, as long as all tasks leave them in place. -/
theorem answer_of_held
    (reads : keeper.ReadsReliably)
    {state : keeper.State × τ}
    {record : ServiceInstance}
    {plan : Plan}
    {site : Site}
    {credentials : Credentials}
    (recorded : (keeper.records state.1).instance? id = some record)
    (usable : broker.planOf record = .ok (plan, site))
    (held :
      (keeper.records state.1).binding? id bindingId = some ⟨bindingId, credentials.payload⟩)
    (between : List Task)
    (leaving : ∀ task ∈ between, task.operation.Leaves id bindingId)
    (again : Draws)
    (request : Api.BindRequest) :
    let later := broker.afterwards keeper server between state
    let repetition : Task := ⟨again, .bind id bindingId request⟩
    let asksForIt :=
      project LoginChoice.codec .blank request.parameters =
        .ok ⟨credentials.username, credentials.password⟩
    let answered := (broker.seen keeper server repetition later).answer
    (broker.seen keeper server repetition later).calls = [] ∧
      keeper.records (broker.carryOut keeper server repetition later).2.1 =
        keeper.records later.1 ∧
      (asksForIt → answered = .ok (.alreadyBound credentials.payload) ∧ answered.status = 200) ∧
      (¬ asksForIt → answered = .error (.conflict bindingId)) := by
  intro later repetition asksForIt answered
  have standing : (keeper.records later.1).instance? id = some record ∧
      (keeper.records later.1).binding? id bindingId = some ⟨bindingId, credentials.payload⟩ :=
    kept_of_tasks between leaving recorded held
  have course : Binding broker again id bindingId request
      (storeCalls (broker.conversation keeper server repetition later))
      (broker.seen keeper server repetition later).calls answered :=
    proceeding_of_task repetition later
  obtain ⟨silent, unchanged, compared⟩ :=
    compared_of_held course (faithful_of_task reads repetition later) standing.1 usable standing.2
  refine ⟨silent, unchanged, ?_, ?_⟩
  · intro asks
    rw [if_pos (sameCredentials_payload_iff.mpr asks)] at compared
    simp [compared, Answer.status, Success.status]
  · intro asksNot
    rw [if_neg (mt sameCredentials_payload_iff.mp asksNot)] at compared
    exact compared

end

/--
A request for credentials of a recorded instance, under an identifier without a binding, with
a store that may fail to record and with servers that may fail or report any user.  Parameters
that do not have the shape of a choice are turned down with 400 before any call.  Otherwise
all goes well or the answer is an error; and where the binding was recorded, it is found by
every later request that names its user and password, and by no other, for as long as all
tasks leave it in place.
-/
theorem bind_all_or_error
    {τ : Type}
    (broker : Broker)
    {keeper : Keeper}
    (reads : keeper.ReadsReliably)
    (server : (question : AdminQuestion) → τ → question.Outcome × τ)
    (state : keeper.State × τ)
    (draws : Draws)
    (id bindingId : String)
    (request : Api.BindRequest)
    {record : ServiceInstance}
    {plan : Plan}
    {site : Site}
    (recorded : (keeper.records state.1).instance? id = some record)
    (usable : broker.planOf record = .ok (plan, site))
    (unbound : (keeper.records state.1).binding? id bindingId = none) :
    let task : Task := ⟨draws, .bind id bindingId request⟩
    let stores := storeCalls (broker.conversation keeper server task state)
    let event := broker.seen keeper server task state
    let reached := (broker.carryOut keeper server task state).2
    let records := keeper.records reached.1
    (∀ error, project LoginChoice.codec .blank request.parameters = .error error →
      event.answer = .error (.plan .malformedParameters) ∧ event.answer.status = 400 ∧
        event.calls = [] ∧ records = keeper.records state.1) ∧
    ∀ choice, project LoginChoice.codec .blank request.parameters = .ok choice →
      let credentials := site.credentials draws choice
      AllOrError site.server credentials id bindingId stores event.calls event.answer
        (keeper.records state.1) records ∧
      (records.binding? id bindingId ≠ none →
        ∀ between again (other : Api.BindRequest),
          (∀ task ∈ between, task.operation.Leaves id bindingId) →
          let later := broker.afterwards keeper server between reached
          let repetition : Task := ⟨again, .bind id bindingId other⟩
          let asksForIt :=
            project LoginChoice.codec .blank other.parameters =
              .ok ⟨credentials.username, credentials.password⟩
          let answered := (broker.seen keeper server repetition later).answer
          (broker.seen keeper server repetition later).calls = [] ∧
            keeper.records (broker.carryOut keeper server repetition later).2.1 =
              keeper.records later.1 ∧
            (asksForIt →
              answered = .ok (.alreadyBound credentials.payload) ∧ answered.status = 200) ∧
            (¬ asksForIt → answered = .error (.conflict bindingId))) := by
  intro task stores event reached records
  have course : Binding broker draws id bindingId request stores event.calls event.answer :=
    proceeding_of_task task state
  obtain ⟨outcome, issuing, filing⟩ :=
    filing_of_binding course (faithful_of_task reads task state) recorded usable unbound
  constructor
  · intro error unreadable
    exact refused_of_issuing unreadable issuing filing
  · intro choice read credentials
    have allOrError := AllOrError.of_issuing read issuing filing unbound
    refine ⟨allOrError, ?_⟩
    intro present between again other leaving
    obtain ⟨_, _, held⟩ := allOrError.handedOut present
    have still : records.instance? id = some record := (instance_of_filing filing).trans recorded
    exact answer_of_held reads still usable held between leaving again other

/-- A store in memory that takes no bindings once it is full. -/
def limited : Keeper :=
  .failing
    (fun call full =>
      match call with
      | .addBinding _ _ _ => (if full then some (.database .readOnly) else none, full)
      | _ => (none, full))
    false

/-- Looking something up never fails, whether or not the store is full. -/
theorem readsReliably_limited :
    limited.ReadsReliably :=
  Keeper.readsReliably_failing (fun _ _ => rfl) (fun _ _ _ => rfl) (fun _ _ => rfl) false

/--
All calls go well for credentials that the caller chose.  They are handed out and found
again where the store takes them, and answered with 500 where the store is full.
-/
theorem bind_all_or_error_chosenRequest :
    let server := World.answer World.unfailing
    let bob : Credentials := ⟨"alpha", "http://server", "bob", "pw"⟩
    let task : Task := ⟨plainDraws, .bind "i1" "b1" chosenRequest⟩
    let other : Task := ⟨plainDraws, .unbind "i1" "b2"⟩
    let state (full : Bool) : limited.State × (World × Unit) := ((settled.1, full), settled.2)
    let event (full : Bool) := soleServer.seen limited server task (state full)
    let later := soleServer.afterwards limited server [other]
      (soleServer.carryOut limited server task (state false)).2
    (∀ full, (event full).calls = grantedCalls ⟨"http://server", ⟨"admin", "secret"⟩⟩ bob) ∧
      (event false).answer = .ok (.bound bob.payload) ∧
      (soleServer.seen limited server task later).answer = .ok (.alreadyBound bob.payload) ∧
      (event true).answer.status = 500 := by
  intro server bob task other state event later
  let record : ServiceInstance :=
    ⟨"i1", "shared", "org", "space", "service", DatabaseChoice.payload ⟨"alpha"⟩⟩
  let site : Site := ⟨"alpha", ⟨"http://server", ⟨"admin", "secret"⟩⟩⟩
  have usable : soleServer.planOf record = .ok (⟨"shared", .shared site.server⟩, site) := rfl
  have read : project LoginChoice.codec .blank chosenRequest.parameters = .ok ⟨"bob", "pw"⟩ := rfl
  have calls (full : Bool) : (event full).calls = grantedCalls site.server bob := by
    cases full <;> rfl
  have issued (full : Bool) :=
    (bind_all_or_error soleServer readsReliably_limited server (state full) plainDraws "i1" "b1"
      chosenRequest rfl usable rfl).2 ⟨"bob", "pw"⟩ read
  have leaving : ∀ task ∈ [other], task.operation.Leaves "i1" "b1" := by
    simp [other, Operation.Leaves]
  let reached := (soleServer.carryOut limited server task (state false)).2
  have held : (limited.records reached.1).binding? "i1" "b1" = some ⟨"b1", bob.payload⟩ := rfl
  have present : (limited.records reached.1).binding? "i1" "b1" ≠ none := by
    simp [held]
  obtain ⟨allOrError, again⟩ := issued false
  have found := again present [other] plainDraws chosenRequest leaving
  exact ⟨calls, (allOrError.handedOut present).1, (found.2.2.1 read).1,
    ((issued true).1.lost rfl (calls true)).2⟩

end GraphBroker.Broker
