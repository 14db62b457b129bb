import GraphBroker.Proofs.Remote.Exchange
import GraphBroker.Proofs.Remote.Host

namespace GraphBroker

open Dialogue Text Remote

/-!
# The administrator's calls over the wire

Every call of an administrator stands for a few requests to one URL, which are sent one after
the other until one of them is not answered as it has to be.  A call succeeds only if all of
its requests are answered with the status that the call expects; otherwise it comes to what
went wrong with the last one that was sent.
-/

namespace AdminCall

/-- The status with which every request of a call has to be answered. -/
def expected : AdminCall → Http.Status
  | .createDatabase _ | .newUser _ _ | .grantAccess _ _ => 201
  | .deleteDatabase _ | .userExists _ | .deleteUser _ | .revokeAccess _ _ => 200

/-- The method of a call's requests. -/
def method : AdminCall → Method
  | .createDatabase _ | .newUser _ _ | .revokeAccess _ _ => .post
  | .deleteDatabase _ | .deleteUser _ => .delete
  | .userExists _ => .get
  | .grantAccess _ _ => .put

/-- What a call's requests name beneath the server. -/
def names : AdminCall → List String
  | .createDatabase _ => ["admin", "databases"]
  | .deleteDatabase database => ["admin", "databases", database]
  | .userExists _ | .newUser _ _ => ["admin", "users"]
  | .deleteUser username => ["admin", "users", username]
  | .grantAccess _ username => ["admin", "permissions", "user", username]
  | .revokeAccess _ username => ["admin", "permissions", "user", username, "delete"]

/-- What a call's requests accept. -/
def accept : AdminCall → String
  | .userExists _ => "application/json"
  | _ => "*/*"

/-- The body of a request about permissions. -/
def permissionBody (database action : String) : Body :=
  Client.jsonBody (Client.permission action database)

/-- The bodies of a call's requests: permission to write comes before permission to read. -/
def bodies : AdminCall → List Body
  | .createDatabase database =>
      [.multipart [⟨"root", (Client.databaseDescription database).print⟩]]
  | .newUser username password => [Client.jsonBody (Client.userDescription username password)]
  | .deleteDatabase _ | .userExists _ | .deleteUser _ => [.empty]
  | .grantAccess database _ | .revokeAccess database _ =>
      [permissionBody database "write", permissionBody database "read"]

/-- The requests of a call beneath a server, in their order. -/
def requests (call : AdminCall) (base : Url) (login : Login) : List Request :=
  call.bodies.map (Request.toUrl call.method (base.extend call.names) login call.accept)

/-- What a call whose requests are all answered well comes to, by the text of the last answer. -/
def conclude : (call : AdminCall) → String → Except Failure call.Reply
  | .userExists username, body =>
      ((UserList.codec.read.jsonText body).mapError .malformed).map fun list =>
        list.users.contains username
  | .createDatabase _, _ | .deleteDatabase _, _ => .ok ()
  | .newUser _ _, _ | .deleteUser _, _ => .ok ()
  | .grantAccess _ _, _ | .revokeAccess _ _, _ => .ok ()

end AdminCall

namespace Remote

/-- A request is answered with a status. -/
def Answered (expected : Http.Status) (exchange : Exchange wire) : Prop :=
  ∃ response : Response, exchange.reply = some response ∧ response.status = expected

/-- What went wrong with a request that was not answered with the status expected. -/
def failureOf (expected : Http.Status) (exchange : Exchange wire) : Failure :=
  match (exchange.reply : Option Response) with
  | none => .undelivered .unanswered (Request.url exchange.question).render
  | some response =>
      .unexpectedStatus (Request.method exchange.question).name
        (Request.url exchange.question).render expected response.status

/-- How a call is carried out beneath a server: what is sent, and what it comes to. -/
structure Carried
    (call : AdminCall)
    (base : Url)
    (login : Login)
    (sent : List (Exchange wire))
    (outcome : Except Failure call.Reply) :
    Prop where
  /-- The first requests of the call are sent, in their order. -/
  inOrder : sent.map Exchange.question <+: call.requests base login
  /-- All of them present the login of the client. -/
  presented : ∀ exchange ∈ sent, Request.login exchange.question = login
  /-- Nothing is sent after a request that was not answered as it had to be. -/
  stops : ∀ exchange ∈ sent.dropLast, Answered call.expected exchange
  /-- Where each was answered as it had to be, nothing is left to be sent. -/
  complete :
    (∀ exchange ∈ sent, Answered call.expected exchange) →
    sent.map Exchange.question = call.requests base login
  /-- What went wrong with a request is what the call comes to. -/
  fails :
    ∀ exchange ∈ sent,
      ¬ Answered call.expected exchange →
      outcome = .error (failureOf call.expected exchange)
  /-- Otherwise the last answer says what the call comes to. -/
  concludes :
    (∀ exchange ∈ sent, Answered call.expected exchange) →
    ∃ (last : Exchange wire) (response : Response),
      sent.getLast? = some last ∧ last.reply = some response ∧
        outcome = call.conclude (Utf8.decodeLossy response.body)

/-! ## One request after the other -/

section

variable {request : Request} {expected : Http.Status} {response : Response}

@[simp]
theorem answered_some :
    Answered expected ⟨request, some response⟩ ↔ response.status = expected := by
  constructor
  · rintro ⟨found, same, status⟩
    cases same
    exact status
  · intro status
    exact ⟨response, rfl, status⟩

@[simp]
theorem not_answered_none :
    ¬ Answered expected ⟨request, none⟩ := by
  rintro ⟨_, impossible, _⟩
  cases impossible

/-- A request that is not answered as it has to be comes to what went wrong with it. -/
theorem failed_of_settled
    {reply : Option Response}
    {failure : Failure}
    (settled : request.settled expected reply = .error failure) :
    ¬ Answered expected ⟨request, reply⟩ ∧ failureOf expected ⟨request, reply⟩ = failure := by
  cases reply with
  | none =>
      simpa [Request.settled, failureOf] using settled
  | some response =>
      by_cases required : response.status = expected
      · simp [Request.settled, required] at settled
      · simpa [Request.settled, failureOf, required] using settled

/-- A request that succeeds comes to the text of its answer. -/
theorem answered_of_settled
    {reply : Option Response}
    {body : String}
    (settled : request.settled expected reply = .ok body) :
    ∃ response, reply = some response ∧ Answered expected ⟨request, reply⟩ ∧
      Utf8.decodeLossy response.body = body := by
  obtain ⟨response, rfl, status, text⟩ := Request.settled_eq_ok_iff.mp settled
  exact ⟨response, rfl, answered_some.mpr status, text⟩

end

/--
Requests that are sent in turn, as long as each of them succeeds: what is sent, and what the
last of it came to.
-/
inductive InTurn (expected : Http.Status) :
    List Request → List (Exchange wire) → Except Failure String → Prop where
  | stopped {request : Request} {rest : List Request} {reply : Option Response} {failure : Failure}
      (settled : request.settled expected reply = .error failure) :
      InTurn expected (request :: rest) [⟨request, reply⟩] (.error failure)
  | last {request : Request} {reply : Option Response} {body : String}
      (settled : request.settled expected reply = .ok body) :
      InTurn expected [request] [⟨request, reply⟩] (.ok body)
  | next {request : Request} {rest : List Request} {reply : Option Response} {body : String}
      {later : List (Exchange wire)} {outcome : Except Failure String}
      (settled : request.settled expected reply = .ok body)
      (others : InTurn expected rest later outcome) :
      InTurn expected (request :: rest) (⟨request, reply⟩ :: later) outcome

namespace InTurn

variable {expected : Http.Status} {requests : List Request} {sent : List (Exchange wire)}
variable {outcome : Except Failure String}

theorem sent_ne_nil
    (turns : InTurn expected requests sent outcome) :
    sent ≠ [] := by
  cases turns <;> simp

/-- Requests are sent in order, from the first on. -/
theorem inOrder
    (turns : InTurn expected requests sent outcome) :
    sent.map Exchange.question <+: requests := by
  induction turns with
  | stopped settled =>
      exact List.cons_prefix_cons.mpr ⟨rfl, List.nil_prefix⟩
  | last settled =>
      exact List.prefix_rfl
  | next settled others inductionHypothesis =>
      exact List.cons_prefix_cons.mpr ⟨rfl, inductionHypothesis⟩

/-- Only the last request that is sent may be answered otherwise than it has to be. -/
theorem stops
    (turns : InTurn expected requests sent outcome) :
    ∀ exchange ∈ sent.dropLast, Answered expected exchange := by
  induction turns with
  | stopped settled | last settled =>
      simp
  | next settled others inductionHypothesis =>
      obtain ⟨response, -, answered, -⟩ := answered_of_settled settled
      rw [List.dropLast_cons_of_ne_nil others.sent_ne_nil]
      exact List.forall_mem_cons.mpr ⟨answered, inductionHypothesis⟩

/-- When all that is sent is answered well, all requests are sent. -/
theorem complete
    (turns : InTurn expected requests sent outcome)
    (answered : ∀ exchange ∈ sent, Answered expected exchange) :
    sent.map Exchange.question = requests := by
  induction turns with
  | stopped settled =>
      exact absurd (answered _ List.mem_cons_self) (failed_of_settled settled).1
  | last settled =>
      rfl
  | next settled others inductionHypothesis =>
      have later := inductionHypothesis fun exchange member =>
        answered exchange (List.mem_cons_of_mem _ member)
      exact congrArg (List.cons _) later

/-- The failure of a request that is not answered well is the outcome. -/
theorem fails
    (turns : InTurn expected requests sent outcome)
    {exchange : Exchange wire}
    (member : exchange ∈ sent)
    (unanswered : ¬ Answered expected exchange) :
    outcome = .error (failureOf expected exchange) := by
  induction turns with
  | stopped settled =>
      obtain rfl := List.mem_singleton.mp member
      rw [(failed_of_settled settled).2]
  | last settled =>
      obtain rfl := List.mem_singleton.mp member
      obtain ⟨response, -, answered, -⟩ := answered_of_settled settled
      exact absurd answered unanswered
  | next settled others inductionHypothesis =>
      rcases List.mem_cons.mp member with rfl | later
      · obtain ⟨response, -, answered, -⟩ := answered_of_settled settled
        exact absurd answered unanswered
      · exact inductionHypothesis later

/-- When all that is sent is answered well, the last reply is the outcome. -/
theorem concludes
    (turns : InTurn expected requests sent outcome)
    (answered : ∀ exchange ∈ sent, Answered expected exchange) :
    ∃ (last : Exchange wire) (response : Response),
      sent.getLast? = some last ∧ last.reply = some response ∧
        outcome = .ok (Utf8.decodeLossy response.body) := by
  induction turns with
  | stopped settled =>
      exact absurd (answered _ List.mem_cons_self) (failed_of_settled settled).1
  | @last request reply body settled =>
      obtain ⟨response, same, -, text⟩ := answered_of_settled settled
      exact ⟨⟨request, reply⟩, response, rfl, same, congrArg Except.ok text.symm⟩
  | next settled others inductionHypothesis =>
      obtain ⟨last, response, ends, replied, same⟩ := inductionHypothesis fun exchange member =>
        answered exchange (List.mem_cons_of_mem _ member)
      refine ⟨last, response, ?_, replied, same⟩
      rw [List.getLast?_cons, ends, Option.getD_some]

end InTurn

/-! ## Calls of an administrator -/

namespace Carried

variable {call : AdminCall} {base : Url} {login : Login} {sent : List (Exchange wire)}
variable {outcome : Except Failure call.Reply}

theorem of_inTurn
    {ended : Except Failure String}
    (turns : InTurn call.expected (call.requests base login) sent ended) :
    Carried call base login sent (ended.bind call.conclude) where
  inOrder :=
    turns.inOrder
  presented := by
    intro exchange member
    have planned := turns.inOrder.subset (List.mem_map_of_mem member)
    obtain ⟨body, -, same⟩ := List.mem_map.mp planned
    rw [← same]
    rfl
  stops :=
    turns.stops
  complete :=
    turns.complete
  fails := by
    intro exchange member unanswered
    rw [turns.fails member unanswered]
    rfl
  concludes := by
    intro answered
    obtain ⟨last, response, ends, replied, same⟩ := turns.concludes answered
    exact ⟨last, response, ends, replied, congrArg (Except.bind · call.conclude) same⟩

/--
A call succeeds if and only if all of its requests were sent and answered as they had to be,
and the last answer says something that can be read.
-/
theorem succeeds_iff
    (carried : Carried call base login sent outcome)
    {value : call.Reply} :
    outcome = .ok value ↔
      sent.map Exchange.question = call.requests base login ∧
        (∀ exchange ∈ sent, Answered call.expected exchange) ∧
        ∃ (last : Exchange wire) (response : Response),
          sent.getLast? = some last ∧ last.reply = some response ∧
            call.conclude (Utf8.decodeLossy response.body) = .ok value := by
  constructor
  · intro succeeded
    have answered : ∀ exchange ∈ sent, Answered call.expected exchange := by
      intro exchange member
      refine Classical.byContradiction fun unanswered => ?_
      rw [carried.fails exchange member unanswered] at succeeded
      cases succeeded
    obtain ⟨last, response, ends, replied, same⟩ := carried.concludes answered
    exact ⟨carried.complete answered, answered, last, response, ends, replied,
      same.symm.trans succeeded⟩
  · rintro ⟨-, answered, last, response, ends, replied, concluded⟩
    obtain ⟨other, answer, alsoEnds, alsoReplied, same⟩ := carried.concludes answered
    obtain rfl : last = other := Option.some.inj (ends.symm.trans alsoEnds)
    obtain rfl : response = answer := Option.some.inj (replied.symm.trans alsoReplied)
    rw [same, concluded]

end Carried

/--
What becomes of a call beneath a server: nothing is sent where no request can name the
address, and otherwise it is carried out.
-/
inductive Becomes (call : AdminCall) (base : Url) (login : Login) :
    List (Exchange wire) → Except Failure call.Reply → Prop where
  | unsent {reason : Undelivered}
      (blocked : Session.obstacle? (base.extend call.names).withoutLogin = some reason) :
      Becomes call base login []
        (.error (.undelivered reason (base.extend call.names).withoutLogin.render))
  | sent {sent : List (Exchange wire)} {ended : Except Failure String}
      (free : Session.obstacle? (base.extend call.names).withoutLogin = none)
      (turns : InTurn call.expected (call.requests base login) sent ended) :
      Becomes call base login sent (ended.bind call.conclude)

namespace Client

section

variable {client : Client} {names : List String} {method : Method} {url : Url}
variable {expected : Http.Status} {exchanges : List (Exchange wire)}

/-- A request beneath the server is sent once, unless no request can name the address. -/
theorem outcome_of_send
    {accept : String}
    {body : Body}
    {outcome : Except Failure String}
    (reached : client.target names = .ok url)
    (yields : (client.send method names accept body expected).run.Yields exchanges outcome) :
    (∃ reason, Session.obstacle? url.withoutLogin = some reason ∧ exchanges = [] ∧
        outcome = .error (.undelivered reason url.withoutLogin.render)) ∨
      (Session.obstacle? url.withoutLogin = none ∧
        InTurn expected [.toUrl method url client.login accept body] exchanges outcome) := by
  rcases yields_given_bind yields with ⟨failure, unreached, -, -⟩ | ⟨other, same, asking⟩
  · rw [reached] at unreached
    cases unreached
  · rw [reached] at same
    cases same
    rcases Request.outcome_of_exchange asking with blocked | ⟨free, reply, rfl, settled⟩
    · exact Or.inl blocked
    · refine Or.inr ⟨free, ?_⟩
      cases outcome with
      | ok body =>
          exact .last settled.symm
      | error failure =>
          exact .stopped settled.symm

/-- Requests about permissions are sent in turn, unless no request can name the address. -/
theorem outcome_of_sendPermissions
    {database : String}
    {actions : List String}
    {outcome : Except Failure Unit}
    (nonempty : actions ≠ [])
    (reached : client.target names = .ok url)
    (yields :
      (client.sendPermissions method names database expected actions).run.Yields exchanges
        outcome) :
    (∃ reason, Session.obstacle? url.withoutLogin = some reason ∧ exchanges = [] ∧
        outcome = .error (.undelivered reason url.withoutLogin.render)) ∨
      (Session.obstacle? url.withoutLogin = none ∧ ∃ ended,
        InTurn expected
          (actions.map fun action =>
            .toUrl method url client.login anyType (AdminCall.permissionBody database action))
          exchanges ended ∧
        outcome = ended.map fun _ => ()) := by
  induction actions generalizing exchanges with
  | nil =>
      exact absurd rfl nonempty
  | cons action rest inductionHypothesis =>
      rcases yields_bind yields with
        ⟨failure, sending, rfl⟩ | ⟨answer, first, later, rfl, sending, others⟩
      · rcases outcome_of_send reached sending with ⟨reason, blocked, rfl, same⟩ | ⟨free, turns⟩
        · cases same
          exact Or.inl ⟨reason, blocked, rfl, rfl⟩
        · refine Or.inr ⟨free, .error failure, ?_, rfl⟩
          cases turns with
          | stopped settled =>
              exact .stopped settled
          | next _ nothing =>
              cases nothing
      · rcases outcome_of_send reached sending with ⟨_, _, _, impossible⟩ | ⟨free, turns⟩
        · cases impossible
        · refine Or.inr ⟨free, ?_⟩
          cases turns with
          | next _ nothing =>
              cases nothing
          | last settled =>
              cases rest with
              | nil =>
                  obtain ⟨rfl, rfl⟩ := yields_done_iff.mp others
                  exact ⟨.ok answer, .last settled, rfl⟩
              | cons following further =>
                  rcases inductionHypothesis (List.cons_ne_nil _ _) others with
                    ⟨_, blocked, _⟩ | ⟨_, ended, turns, same⟩
                  · rw [free] at blocked
                    cases blocked
                  · exact ⟨ended, .next settled turns, same⟩

end

section

variable {client : Client} {base : Url} {exchanges : List (Exchange wire)}
variable (read : Url.parse? client.base = some base) (http : base.isHttp = true)

include read http

/-- What becomes of a call that stands for one request. -/
theorem becomes_of_send
    (call : AdminCall)
    {outcome : Except Failure call.Reply}
    {body : Body}
    {finish : String → Session call.Reply}
    (single : call.bodies = [body])
    (finishes : ∀ text, (finish text).run = .done (call.conclude text))
    (yields :
      (client.send call.method call.names call.accept body call.expected >>= finish).run.Yields
        exchanges outcome) :
    Becomes call base client.login exchanges outcome := by
  have reached := target_eq_ok read http call.names
  have requests : call.requests base client.login =
      [.toUrl call.method (base.extend call.names) client.login call.accept body] :=
    congrArg (List.map _) single
  rcases yields_bind yields with ⟨failure, sending, rfl⟩ | ⟨text, first, later, rfl, sending, ending⟩
  · rcases outcome_of_send reached sending with ⟨reason, blocked, rfl, same⟩ | ⟨free, turns⟩
    · cases same
      exact .unsent blocked
    · rw [← requests] at turns
      exact .sent free turns
  · rw [finishes] at ending
    obtain ⟨rfl, rfl⟩ := yields_done_iff.mp ending
    rw [List.append_nil]
    rcases outcome_of_send reached sending with ⟨_, _, _, impossible⟩ | ⟨free, turns⟩
    · cases impossible
    · rw [← requests] at turns
      exact .sent free turns

end

/-- What becomes of every call beneath a server that takes requests. -/
theorem becomes_of_yields
    {client : Client}
    {base : Url}
    (read : Url.parse? client.base = some base)
    (http : base.isHttp = true)
    (call : AdminCall)
    {exchanges : List (Exchange wire)}
    {outcome : Except Failure call.Reply}
    (yields : (client.perform call).run.Yields exchanges outcome) :
    Becomes call base client.login exchanges outcome := by
  cases call with
  | createDatabase database =>
      exact becomes_of_send read http (.createDatabase database) rfl (fun _ => rfl) yields
  | deleteDatabase database =>
      exact becomes_of_send read http (.deleteDatabase database) rfl (fun _ => rfl) yields
  | userExists username =>
      refine becomes_of_send read http (.userExists username) rfl (fun text => ?_) yields
      simp only [AdminCall.conclude, readUsers]
      cases (UserList.codec.read.jsonText text).mapError Failure.malformed <;> rfl
  | newUser username password =>
      exact becomes_of_send read http (.newUser username password) rfl (fun _ => rfl) yields
  | deleteUser username =>
      exact becomes_of_send read http (.deleteUser username) rfl (fun _ => rfl) yields
  | grantAccess database username =>
      have reached := target_eq_ok read http (AdminCall.grantAccess database username).names
      rcases outcome_of_sendPermissions (List.cons_ne_nil _ _) reached yields with
        ⟨reason, blocked, rfl, rfl⟩ | ⟨free, ended, turns, rfl⟩
      · exact .unsent blocked
      · exact .sent free turns
  | revokeAccess database username =>
      have reached := target_eq_ok read http (AdminCall.revokeAccess database username).names
      rcases outcome_of_sendPermissions (List.cons_ne_nil _ _) reached yields with
        ⟨reason, blocked, rfl, rfl⟩ | ⟨free, ended, turns, rfl⟩
      · exact .unsent blocked
      · exact .sent free turns

/--
A call stops at the first bad answer and succeeds only if all answers are good.  Beneath every
server that takes requests, whoever answers them and in whatever way, the first requests of
the call are sent in their order, under the login of the client, until one of them is not
answered as it has to be.  The call succeeds if and only if all of its requests were
answered well and, when it reads the last answer, what that says can be read.  Where no
request can name the address, nothing is sent and the call fails.
-/
theorem perform_stops_at_bad_answer
    {client : Client}
    {base : Url}
    (read : Url.parse? client.base = some base)
    (http : base.isHttp = true)
    (call : AdminCall)
    {σ : Type}
    (respond : Request → σ → Option Response × σ)
    (state : σ) :
    let performing := (client.perform call).run
    let sent := performing.exchanges (P := wire) respond state
    let outcome := (performing.run (P := wire) respond state).1
    let address := (base.extend call.names).withoutLogin
    match Session.obstacle? address with
    | some reason => sent = [] ∧ outcome = .error (.undelivered reason address.render)
    | none =>
        Carried call base client.login sent outcome ∧
          ∀ value, outcome = .ok value ↔
            sent.map Exchange.question = call.requests base client.login ∧
              (∀ exchange ∈ sent, Answered call.expected exchange) ∧
              ∃ (last : Exchange wire) (response : Response),
                sent.getLast? = some last ∧ last.reply = some response ∧
                  call.conclude (Utf8.decodeLossy response.body) = .ok value := by
  intro performing sent outcome address
  have becomes : Becomes call base client.login sent outcome :=
    becomes_of_yields read http call (yields_exchanges respond performing state)
  generalize sent = exchanges at becomes ⊢
  generalize outcome = result at becomes ⊢
  cases becomes with
  | unsent blocked =>
      simp only [address, blocked]
      exact ⟨trivial, trivial⟩
  | sent free turns =>
      simp only [address, free]
      have carried := Carried.of_inTurn turns
      exact ⟨carried, fun value => carried.succeeds_iff⟩

/-- The methods and addresses of the requests that are sent for a call. -/
def addressesToPerform (client : Client) (call : AdminCall) (peer : Peer) : List (String × String) :=
  ((client.perform call).run.exchanges (P := wire) Peer.answer peer).map fun exchange =>
    ((Request.method exchange.question).name, (Request.url exchange.question).render)

/-- Access that is granted in part is not granted: the second request is dropped. -/
theorem perform_grant_dropped :
    let peer : Peer := .scripted [some ⟨201, []⟩, none]
    let granting := (onNetwork.perform (.grantAccess "db" "bob")).run
    onNetwork.addressesToPerform (.grantAccess "db" "bob") peer =
        [("PUT", "http://sd:5820/admin/permissions/user/bob"),
         ("PUT", "http://sd:5820/admin/permissions/user/bob")] ∧
      (granting.run (P := wire) Peer.answer peer).1 =
        .error (.undelivered .unanswered "http://sd:5820/admin/permissions/user/bob") ∧
      ∃ base,
        Url.parse? onNetwork.base = some base ∧
        Carried (.grantAccess "db" "bob") base onNetwork.login
          (granting.exchanges (P := wire) Peer.answer peer)
          (granting.run (P := wire) Peer.answer peer).1 := by
  intro peer granting
  refine ⟨by decide +kernel, rfl, ?_⟩
  have read : Url.parse? onNetwork.base =
      some ⟨"http", some ⟨"", none, "sd", some 5820⟩, false, [""], none, none⟩ := rfl
  have performed := perform_stops_at_bad_answer read rfl (.grantAccess "db" "bob") Peer.answer peer
  exact ⟨_, read, performed.1⟩

/--
A call to a server whose host has a brace in its name sends nothing, although the server would
answer as it has to.
-/
theorem perform_unsent_when_unwritable :
    let peer : Peer := .scripted [some ⟨200, []⟩]
    let braced : Client := .ofServer ⟨"http://a\x7bb", ⟨"admin", "admin"⟩⟩
    (Url.parse? braced.base).map Url.isHttp = some true ∧
      braced.addressesToPerform (.deleteUser "bob") peer = [] ∧
      ((braced.perform (.deleteUser "bob")).run.run (P := wire) Peer.answer peer).1.isOk = false := by
  decide +kernel

end Client

end Remote

end GraphBroker
