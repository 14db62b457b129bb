import GraphBroker.Dialogue
import GraphBroker.Remote.Failure

namespace GraphBroker

/-!
# Conversations with administrators

A question names a server, the login to use there, and the call; the answer is
the call's reply or the way in which it failed.
-/

/-- A call on a server. -/
structure AdminQuestion where
  server : Server
  call : AdminCall
  deriving Repr, DecidableEq

/-- What comes back from a call on a server. -/
abbrev AdminQuestion.Outcome (question : AdminQuestion) : Type :=
  Except Remote.Failure question.call.Reply

/-- Conversations in which servers are administered. -/
def administration : Protocol :=
  ⟨AdminQuestion, AdminQuestion.Outcome⟩

end GraphBroker
