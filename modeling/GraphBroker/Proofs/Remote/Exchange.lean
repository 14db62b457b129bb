import GraphBroker.Proofs.Conversation
import GraphBroker.Remote.Client

namespace GraphBroker.Remote

open Dialogue Text

/-!
# Requests and what they come to

A request is sent at most once, and not at all when it cannot be made.  It comes to the
body of an answer with the status that is required, and to a failure otherwise.
-/

namespace Request

/-- What a reply to a request comes to when an answer with one status is required. -/
def settled (request : Request) (expected : Http.Status) : Option Response → Except Failure String
  | none => .error (.undelivered .unanswered request.url.render)
  | some response =>
      if response.status = expected then .ok (Utf8.decodeLossy response.body)
      else
        .error (.unexpectedStatus request.method.name request.url.render expected response.status)

/-- Why a request cannot be made: its URL, or the type of its data, has no place in one. -/
def hindrance? (request : Request) : Option Undelivered :=
  match request.body with
  | .typed contentType _ =>
      if contentType.toList.all Session.isFieldChar then Session.obstacle? request.url
      else some .unwritableField
  | _ => Session.obstacle? request.url

/-- What is sent for a request, and what it comes to. -/
inductive Settles (request : Request) (expected : Http.Status) :
    List (Exchange wire) → Except Failure String → Prop where
  | unsent {reason : Undelivered} :
      request.hindrance? = some reason →
      Settles request expected [] (.error (.undelivered reason request.url.render))
  | sent (reply : Option Response) :
      request.hindrance? = none →
      Settles request expected [⟨request, reply⟩] (request.settled expected reply)

variable {request : Request} {expected : Http.Status} {exchanges : List (Exchange wire)}

/-- Only an answer with the required status makes a request succeed. -/
theorem settled_eq_ok_iff
    {reply : Option Response}
    {body : String} :
    request.settled expected reply = .ok body ↔
      ∃ response, reply = some response ∧ response.status = expected ∧
        Utf8.decodeLossy response.body = body := by
  cases reply with
  | none =>
      simp [settled]
  | some response =>
      by_cases required : response.status = expected <;> simp [settled, required]

/-- A request is sent once unless its URL forbids it. -/
theorem outcome_of_exchange
    {outcome : Except Failure String}
    (yields : (Session.exchange request expected).run.Yields exchanges outcome) :
    (∃ reason, Session.obstacle? request.url = some reason ∧ exchanges = [] ∧
        outcome = .error (.undelivered reason request.url.render)) ∨
      (Session.obstacle? request.url = none ∧
        ∃ reply, exchanges = [⟨request, reply⟩] ∧ outcome = request.settled expected reply) := by
  unfold Session.exchange at yields
  split at yields
  · next reason blocked =>
      obtain ⟨rfl, rfl⟩ := yields_done_iff.mp yields
      exact Or.inl ⟨reason, blocked, rfl, rfl⟩
  · next free =>
      obtain ⟨reply, rest, rfl, answered⟩ := yields_ask_iff.mp yields
      have ended : rest = [] ∧ outcome = request.settled expected reply := by
        cases reply with
        | none =>
            exact yields_done_iff.mp answered
        | some response =>
            by_cases required : response.status = expected <;>
              simpa [settled, required] using answered
      obtain ⟨rfl, rfl⟩ := ended
      exact Or.inr ⟨free, reply, rfl, rfl⟩

/-- A request that can be made is sent once, and nothing is sent for another. -/
theorem settles_of_exchange
    {outcome : Except Failure String}
    (possible : request.hindrance? = Session.obstacle? request.url)
    (yields : (Session.exchange request expected).run.Yields exchanges outcome) :
    request.Settles expected exchanges outcome := by
  rcases outcome_of_exchange yields with ⟨reason, blocked, rfl, rfl⟩ | ⟨free, reply, rfl, rfl⟩
  · exact .unsent (possible.trans blocked)
  · exact .sent reply (possible.trans free)

theorem asksOnly_exchange
    {property : Request → Prop}
    (holds : property request) :
    (Session.exchange request expected).run.AsksOnly (P := wire) property := by
  unfold Session.exchange
  split
  · exact .done _
  · refine .ask holds fun reply => ?_
    cases reply with
    | none =>
        exact .done _
    | some response =>
        dsimp only
        split <;> exact .done _

end Request

namespace Client

variable {client : Client} {names : List String} {url : Url} {exchanges : List (Exchange wire)}
variable {outcome : Except Failure String}

/-- What is sent for a request beneath the server. -/
theorem settles_of_send
    {method : Method}
    {accept : String}
    {body : Body}
    {expected : Http.Status}
    (reached : client.target names = .ok url)
    (possible :
      (Request.toUrl method url client.login accept body).hindrance? =
        Session.obstacle? url.withoutLogin)
    (yields : (client.send method names accept body expected).run.Yields exchanges outcome) :
    (Request.toUrl method url client.login accept body).Settles expected exchanges outcome := by
  rcases yields_given_bind yields with ⟨failure, unreached, -, -⟩ | ⟨other, same, asking⟩
  · rw [reached] at unreached
    cases unreached
  · rw [reached] at same
    cases same
    exact Request.settles_of_exchange possible asking

theorem asksOnly_send
    {property : Request → Prop}
    {method : Method}
    {accept : String}
    {body : Body}
    {expected : Http.Status}
    (holds :
      ∀ url, client.target names = .ok url →
        property (.toUrl method url client.login accept body)) :
    (client.send method names accept body expected).run.AsksOnly (P := wire) property :=
  .given_bind fun url reached => Request.asksOnly_exchange (holds url reached)

/-- What is sent for data, which may be of a type that no request can name. -/
theorem settles_of_sendData
    {contentType payload : String}
    (reached : client.target names = .ok url)
    (yields : (client.sendData names contentType payload).run.Yields exchanges outcome) :
    (Request.toUrl .post url client.login "text/plain" (.typed contentType payload)).Settles 200
      exchanges outcome := by
  unfold sendData at yields
  split at yields
  · next writable =>
      exact settles_of_send reached (if_pos writable) yields
  · next unwritable =>
      rcases yields_given_bind yields with ⟨failure, unreached, -, -⟩ | ⟨other, same, ending⟩
      · rw [reached] at unreached
        cases unreached
      · rw [reached] at same
        cases same
        obtain ⟨rfl, rfl⟩ := yields_done_iff.mp ending
        exact .unsent (if_neg unwritable)

end Client

end GraphBroker.Remote
