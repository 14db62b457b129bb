import GraphBroker.Admin.Protocol

namespace GraphBroker

/-!
# Rehearsals

A rehearsal takes the place of every server.  It records each call, fails those
of the operations it is told to fail, and lets all others succeed.
-/

/-- A rehearsal: the calls made so far, oldest first, and how further ones are answered. -/
structure Rehearsal where
  calls : List AdminQuestion
  failing : List AdminOperation
  /-- Whether any user is said to exist. -/
  userExists : Bool
  deriving Repr, DecidableEq

/-- The reply of a call that succeeds. -/
def AdminCall.successReply (userExists : Bool) : (call : AdminCall) → call.Reply
  | .userExists _ => userExists
  | .createDatabase _ | .deleteDatabase _ => ()
  | .newUser _ _ | .deleteUser _ => ()
  | .grantAccess _ _ | .revokeAccess _ _ => ()

namespace Rehearsal

/-- A rehearsal without calls, in which nothing fails. -/
def start : Rehearsal :=
  ⟨[], [], false⟩

/-- Fail an operation from now on. -/
def fail (rehearsal : Rehearsal) (operation : AdminOperation) : Rehearsal :=
  { rehearsal with failing := operation :: rehearsal.failing }

/-- Let an operation succeed from now on. -/
def heal (rehearsal : Rehearsal) (operation : AdminOperation) : Rehearsal :=
  { rehearsal with failing := rehearsal.failing.filter (· != operation) }

/-- Answer a call. -/
def answer (question : AdminQuestion) (rehearsal : Rehearsal) : question.Outcome × Rehearsal :=
  let recorded := { rehearsal with calls := rehearsal.calls ++ [question] }
  if question.call.operation ∈ rehearsal.failing then
    (.error (.defective (.forced question.call.operation)), recorded)
  else
    (.ok (question.call.successReply rehearsal.userExists), recorded)

end Rehearsal

end GraphBroker
