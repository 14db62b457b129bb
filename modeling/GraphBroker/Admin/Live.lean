import GraphBroker.Admin.Protocol
import GraphBroker.Remote.Client

namespace GraphBroker

/-!
# Live servers

A live server is administered over the wire, by a client with the question's
address and login.
-/

/-- Put a question to the server that it names. -/
def askLive (question : AdminQuestion) : Dialogue Remote.wire question.Outcome :=
  ((Remote.Client.ofServer question.server).perform question.call).run

end GraphBroker
