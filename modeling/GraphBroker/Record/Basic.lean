import GraphBroker.Admin.Call
import GraphBroker.Json.Shape

namespace GraphBroker

/-!
# The records of the broker

A record of a service instance says who asked for it, under which plan, and
carries the payload that the plan produced; a record of a binding carries the
credentials that were issued.  Only the plan that wrote a payload looks into it.
-/

open Json

/-- A provisioned service instance. -/
structure ServiceInstance where
  /-- The identifier that the platform chose. -/
  guid : String
  planId : String
  organization : String
  space : String
  service : String
  payload : Json

/-- The credentials issued to one application. -/
structure ServiceBinding where
  /-- The identifier that the platform chose, unique beneath its instance. -/
  guid : String
  payload : Json

/-- A payload, which is `null` where it is left out. -/
def payloadMember : Member Json :=
  .defaulted "plan_params" .value .null

namespace ServiceInstance

/-- The members of an instance record. -/
def shape : Shape (String × String × String × String × String × Json × Unit) :=
  .cons (.required "instance_guid" .text) <|
  .cons (.required "plan_id" .text) <|
  .cons (.required "organization_guid" .text) <|
  .cons (.required "space_guid" .text) <|
  .cons (.required "service_id" .text) <|
  .cons payloadMember .nil

/-- How an instance record is written and read. -/
def codec : Codec ServiceInstance :=
  .record "struct ServiceInstance" shape
    (fun (guid, planId, organization, space, service, payload, ()) =>
      { guid, planId, organization, space, service, payload })
    (fun record =>
      (record.guid, record.planId, record.organization, record.space, record.service,
        record.payload, ()))

end ServiceInstance

namespace ServiceBinding

/-- The members of a binding record. -/
def shape : Shape (String × Json × Unit) :=
  .cons (.required "binding_guid" .text) <|
  .cons payloadMember .nil

/-- How a binding record is written and read. -/
def codec : Codec ServiceBinding :=
  .record "struct BindInstance" shape
    (fun (guid, payload, ()) => { guid, payload })
    (fun record => (record.guid, record.payload, ()))

end ServiceBinding

/-- How a name and a password are written and read. -/
def Login.codec : Codec Login :=
  .record "struct DatabaseCredentials"
    (.cons (.required "username" .text) <|
     .cons (.required "password" .text) .nil)
    (fun (username, password, ()) => { username, password })
    (fun login => (login.username, login.password, ()))

end GraphBroker
