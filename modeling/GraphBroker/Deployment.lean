import GraphBroker.Admin.Live
import GraphBroker.Admin.Rehearsal
import GraphBroker.Gateway.Service
import GraphBroker.Store.Backend

namespace GraphBroker

/-!
# Deployments

A broker's surroundings are a store and the servers that its plans name, live
or rehearsed.  What they cannot answer by themselves they ask over the wire.

Requests are served one after another.  What is written to the log while a
request is served, how long a peer takes, and what happens to the connections
below an exchange are left out: no answer, call or record depends on them.
-/

/-- The servers that plans name. -/
inductive Servers where
  | live
  | rehearsed (rehearsal : Rehearsal)

/-- The surroundings of a broker. -/
structure Surroundings where
  store : Store.Backend
  /-- The kinds of calls that the store declines. -/
  declining : List Store.Operation
  servers : Servers

/-- Steps that depend on the surroundings and change them. -/
abbrev Surroundings.Steps (α : Type) : Type :=
  StateT Surroundings (Dialogue Remote.wire) α

namespace Surroundings

/-- The error of a call that the store declines. -/
def declined (operation : Store.Operation) : Store.Error :=
  .corrupt (.declined operation.name)

/-- Answer a call on the store. -/
def answerStore (call : Store.Call) : Steps call.Outcome := fun surroundings =>
  if call.operation ∈ surroundings.declining then
    .done (.error (declined call.operation), surroundings)
  else
    (surroundings.store.answer call).andThen fun (outcome, store) =>
      .done (outcome, { surroundings with store })

/-- Answer a call on a server. -/
def answerServer (question : AdminQuestion) : Steps question.Outcome := fun surroundings =>
  match surroundings.servers with
  | .live => (askLive question).andThen fun outcome => .done (outcome, surroundings)
  | .rehearsed rehearsal =>
      let (outcome, rehearsal) := Rehearsal.answer question rehearsal
      .done (outcome, { surroundings with servers := .rehearsed rehearsal })

/-- Answer a question of the broker. -/
def answer : (question : Broker.Question) → Steps question.Reply
  | .store call => answerStore call
  | .server question => answerServer question

/-- Answer a request to a broker in these surroundings. -/
def serve (broker : Broker) (draws : Plan.Draws) (request : Gateway.Request) :
    Steps Gateway.Response :=
  (Gateway.handle broker draws request).runIn answer

/-- Hold a plan's part of an operation in these surroundings. -/
def servePlan (steps : Plan.Steps α) : Steps (Except Plan.Error α) :=
  Dialogue.runIn answerServer steps.run

end Surroundings

end GraphBroker
