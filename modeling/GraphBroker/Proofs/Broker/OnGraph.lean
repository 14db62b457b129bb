import GraphBroker.Proofs.Broker.Course
import GraphBroker.Proofs.Store.GraphGuards

namespace GraphBroker.Broker

open Dialogue Store

/-!
# A broker with its records in a graph

When the store is in a graph database, each call on it becomes requests to its server.
An operation turns to the servers of its plans, and changes a record, only after it has
looked up what it is about.  With an identifier that is no key that look-up is refused,
so that the operation ends before.
-/

/-- What a broker may ask whose records are in a graph database. -/
inductive GraphQuestion where
  /-- A request to the server of the graph. -/
  | request (request : Remote.Request)
  /-- A question to the server of a plan. -/
  | server (question : AdminQuestion)

/-- What answers a question of such a broker. -/
def GraphQuestion.Reply : GraphQuestion → Type
  | .request _ => Option Remote.Response
  | .server question => question.Outcome

/-- Conversations of such a broker with the server of the graph and with the servers of its plans. -/
def graphSurroundings : Protocol :=
  ⟨GraphQuestion, GraphQuestion.Reply⟩

/-- Put a question of the broker to a store in a graph, or to the server that it is for. -/
def putToGraph (graph : Graph) :
    (question : Question) → Dialogue graphSurroundings question.Reply
  | .store call =>
      (graph.answer call).relay fun request => .question (P := graphSurroundings) (.request request)
  | .server question => .question (P := graphSurroundings) (.server question)

/-- Carry out an operation with the records in a graph. -/
def performOnGraph
    (broker : Broker)
    (graph : Graph)
    (draws : Plan.Draws)
    (operation : Operation) :
    Dialogue graphSurroundings Answer :=
  (broker.perform draws operation).relay (putToGraph graph)

namespace Operation

/-- The identifiers of an operation. -/
def keys : Operation → List String
  | .provision id _ | .describe id | .deprovision id => [id]
  | .bind id bindingId _ | .unbind id bindingId => [id, bindingId]

/-- The look-up of what an operation is about. -/
def lookUp : Operation → Call
  | .provision id _ | .describe id | .deprovision id => .getInstance id
  | .bind id bindingId _ | .unbind id bindingId => .getBinding id bindingId

theorem keys_lookUp
    (operation : Operation) :
    operation.lookUp.keys = operation.keys := by
  cases operation <;> rfl

end Operation

section

variable {broker : Broker} {graph : Graph} {draws : Plan.Draws} {operation : Operation}

/--
An operation that turns to a server, or asks the store to change a record, has looked up
what it is about, and the store has told whether that is there.
-/
theorem looked_up_of_active
    {stores : List (Exchange storage)}
    {calls : List (Exchange administration)}
    {answer : Answer}
    (course : Proceeding broker draws operation stores calls answer)
    (active : calls ≠ [] ∨ ∃ exchange ∈ stores, exchange.question.reads = false) :
    ∃ outcome, asked operation.lookUp outcome ∈ stores ∧
      ∀ error, outcome = .error error → error.isNotFound = true := by
  have told {call : Call} {error : Store.Error} (absent : error.isNotFound = true)
      (other : Store.Error) (same : (.error error : call.Outcome) = .error other) :
      other.isNotFound = true := by
    cases same
    exact absent
  cases operation with
  | provision id request =>
      cases course with
      | lookUpFailed failed =>
          simp [asked, Call.reads] at active
      | unusable | same | different =>
          exact ⟨.ok _, List.mem_cons_self, by simp⟩
      | unknownPlan absent | notCreated absent | notRecorded absent | provisioned absent =>
          exact ⟨.error _, List.mem_cons_self, told absent⟩
  | describe id =>
      cases course with
      | lookUpFailed | absent | described =>
          simp [asked, Call.reads] at active
  | deprovision id =>
      cases course with
      | lookUpFailed failed | gone absent =>
          simp [asked, Call.reads] at active
      | unusable | notListed | notRemoved | notErased | deprovisioned =>
          exact ⟨.ok _, List.mem_cons_self, by simp⟩
  | bind id bindingId request =>
      cases course with
      | lookUpFailed | missing | unusable | bindingLookUpFailed =>
          simp [asked, Call.reads] at active
      | same | different =>
          exact ⟨.ok _, List.mem_cons_of_mem _ List.mem_cons_self, by simp⟩
      | notIssued usable absent | notRecorded usable absent | bound usable absent =>
          exact ⟨.error _, List.mem_cons_of_mem _ List.mem_cons_self, told absent⟩
  | unbind id bindingId =>
      cases course with
      | lookUpFailed | gone | bindingLookUpFailed | bindingGone =>
          simp [asked, Call.reads] at active
      | unusable | notErased | notRevoked | unbound =>
          exact ⟨.ok _, List.mem_cons_of_mem _ List.mem_cons_self, by simp⟩

/-- What becomes of a call on the store is what becomes of it over the wire. -/
theorem requests_of_putToGraph
    {call : Call}
    {outcome : call.Outcome}
    {exchanges : List (Exchange graphSurroundings)}
    (yields : (putToGraph graph (.store call)).Yields exchanges outcome) :
    ∃ sent, (graph.answer call).Yields sent outcome ∧
      ∀ exchange ∈ exchanges, ∃ asked ∈ sent, exchange.question = .request asked.question := by
  obtain ⟨sent, answering, relayed⟩ := yields_relay yields
  refine ⟨sent, answering, fun exchange member => ?_⟩
  obtain ⟨asked, among, part, posed, within⟩ := relayed.source member
  obtain rfl := yields_question_iff.mp posed
  obtain rfl := List.mem_singleton.mp within
  exact ⟨asked, among, rfl⟩

/-- An operation with an identifier that is no key only looks entries up, and turns to no server. -/
theorem inactive_of_invalid
    {questions : List (Exchange surroundings)}
    {exchanges : List (Exchange graphSurroundings)}
    {answer : Answer}
    (yields : (broker.perform draws operation).Yields questions answer)
    (relayed : Relayed (putToGraph graph) questions exchanges)
    (invalid : ∃ key ∈ operation.keys, ¬ IsKey key) :
    serverCalls questions = [] ∧
      ∀ exchange ∈ storeCalls questions, exchange.question.reads = true := by
  have idle : ¬ (serverCalls questions ≠ [] ∨
      ∃ exchange ∈ storeCalls questions, exchange.question.reads = false) := by
    intro active
    obtain ⟨outcome, member, told⟩ := looked_up_of_active (proceeding_of_yields yields) active
    obtain ⟨part, answered⟩ := relayed.answer (mem_storeCalls_iff.mp member)
    obtain ⟨sent, answering, -⟩ := requests_of_putToGraph answered
    have guarded := Graph.guarded_of_yields answering
    rw [← operation.keys_lookUp] at invalid
    obtain ⟨-, key, refused⟩ := guarded.of_invalid invalid
    exact absurd (told _ refused) (by simp [Store.Error.isNotFound])
  simpa using idle

/-- Whatever is answered, such an operation sends only GET, and only to the server of the graph. -/
theorem gets_of_invalid
    {exchanges : List (Exchange graphSurroundings)}
    {answer : Answer}
    (yields : (broker.performOnGraph graph draws operation).Yields exchanges answer)
    (invalid : ∃ key ∈ operation.keys, ¬ IsKey key)
    {exchange : Exchange graphSurroundings}
    (member : exchange ∈ exchanges) :
    ∃ request, exchange.question = .request request ∧ request.method = .get := by
  obtain ⟨questions, performing, relayed⟩ := yields_relay yields
  obtain ⟨uncalled, reading⟩ := inactive_of_invalid performing relayed invalid
  obtain ⟨⟨question, reply⟩, among, part, answered, within⟩ := relayed.source member
  cases question with
  | server question =>
      have called : (⟨question, reply⟩ : Exchange administration) ∈ serverCalls questions :=
        mem_serverCalls among
      rw [uncalled] at called
      cases called
  | store call =>
      have reads : call.reads = true := reading ⟨call, reply⟩ (mem_storeCalls_iff.mpr among)
      obtain ⟨sent, answering, requests⟩ := requests_of_putToGraph answered
      obtain ⟨asked, sending, same⟩ := requests exchange within
      exact ⟨asked.question, same, (Graph.guarded_of_yields answering).method_of_reads reads sending⟩

end

/--
A store in a graph never writes blindly, whatever is at the other end of the wire.  A
call with an identifier that is no key is refused for it and sends nothing.  Any other
call first looks up what it depends on; it goes on only if each look-up succeeds with a
result that shows what the call needs, and else ends in the error that says so, with
nothing sent but the look-ups.  A call that reads sends nothing but GET, and one that
changes a record has sent a POST when it succeeds.  So a broker that is asked for an
instance or a binding whose identifier is no key turns to no server of a plan, and sends
the server of the graph nothing but GET.
-/
theorem writes_only_after_look_ups
    {σ τ : Type}
    (graph : Graph)
    (peer : Remote.Request → σ → Option Remote.Response × σ)
    (partner : (question : GraphQuestion) → τ → question.Reply × τ)
    (broker : Broker)
    (draws : Plan.Draws) :
    (∀ call state,
      graph.Guarded call
        ((graph.answer call).exchanges (P := Remote.wire) peer state)
        ((graph.answer call).run (P := Remote.wire) peer state).1) ∧
    (∀ operation state,
      (∃ key ∈ operation.keys, ¬ IsKey key) →
      ∀ exchange ∈
          (broker.performOnGraph graph draws operation).exchanges (P := graphSurroundings)
            partner state,
        ∃ request, exchange.question = .request request ∧ request.method = .get) := by
  constructor
  · intro call state
    exact Graph.guarded_of_yields (yields_exchanges (P := Remote.wire) peer _ state)
  · intro operation state invalid exchange member
    have yields := yields_exchanges (P := graphSurroundings) partner
      (broker.performOnGraph graph draws operation) state
    exact gets_of_invalid yields invalid member

end GraphBroker.Broker
