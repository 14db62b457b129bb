import GraphBroker.Json.Shape

namespace GraphBroker.Api

/-!
# Response bodies

What the broker answers.  Provisioning is synchronous, so a description of an
instance names no operation that is still going on.
-/

open Json

/-- The state of an operation that is still going on. -/
structure LastOperation where
  state : String
  description : String
  pollSeconds : Option UInt32

/-- A description of an instance. -/
structure InstanceDescription where
  dashboard : Option String
  lastOperation : Option LastOperation

/-- The credentials of a binding. -/
structure BindingDescription where
  credentials : Json

/-- What went wrong. -/
structure ErrorDescription where
  description : String

namespace LastOperation

/-- How the state of an operation is written and read. -/
def codec : Codec LastOperation :=
  .record "struct LastOperation"
    (.cons (.required "state" .text) <|
     .cons (.required "description" .text) <|
     .cons (.optional "async_poll_interval_seconds" .natural32) .nil)
    (fun (state, description, pollSeconds, ()) => { state, description, pollSeconds })
    (fun operation => (operation.state, operation.description, operation.pollSeconds, ()))

end LastOperation

namespace InstanceDescription

/-- How a description of an instance is written and read. -/
def codec : Codec InstanceDescription :=
  .record "struct ServiceInstanceResponse"
    (.cons (.optional "dashboard_url" .text) <|
     .cons (.optional "last_operation" LastOperation.codec) .nil)
    (fun (dashboard, lastOperation, ()) => { dashboard, lastOperation })
    (fun description => (description.dashboard, description.lastOperation, ()))

/-- The description of an instance about which there is nothing to say. -/
def blank : InstanceDescription :=
  ⟨none, none⟩

end InstanceDescription

namespace BindingDescription

/-- How the credentials of a binding are written and read. -/
def codec : Codec BindingDescription :=
  .record "struct BindResponse" (.cons (.required "credentials" .value) .nil)
    (fun (credentials, ()) => { credentials })
    (fun description => (description.credentials, ()))

end BindingDescription

namespace ErrorDescription

/-- How an error is written and read. -/
def codec : Codec ErrorDescription :=
  .record "struct ErrorMessageResponse" (.cons (.required "description" .text) .nil)
    (fun (description, ()) => { description })
    (fun error => (error.description, ()))

end ErrorDescription

/-- How the body of an answer that says nothing is written and read. -/
def blankCodec : Codec Unit :=
  .record "struct EmptyResponse" .nil id id

end GraphBroker.Api
