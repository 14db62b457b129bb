import GraphBroker.Json.Shape

namespace GraphBroker.Api

/-!
# Request bodies

What the platform sends to provision an instance and to bind an application.
-/

open Json

/-- Parameters that the caller chose, which are not written when there are none. -/
def parametersMember : Member Json :=
  ⟨"parameters", .value, some .null, Json.isNull⟩

/-- A request to provision an instance. -/
structure ProvisionRequest where
  service : String
  planId : String
  organization : String
  space : String
  parameters : Json

/-- The application that a binding is for. -/
structure BindResource where
  application : Option String

/-- A request to bind an application. -/
structure BindRequest where
  service : String
  planId : String
  resource : Option BindResource
  parameters : Json

namespace ProvisionRequest

/-- The members of a provision request. -/
def shape : Shape (String × String × String × String × Json × Unit) :=
  .cons (.required "service_id" .text) <|
  .cons (.required "plan_id" .text) <|
  .cons (.required "organization_guid" .text) <|
  .cons (.required "space_guid" .text) <|
  .cons parametersMember .nil

/-- How a provision request is written and read. -/
def codec : Codec ProvisionRequest :=
  .record "struct CreateServiceInstanceRequest" shape
    (fun (service, planId, organization, space, parameters, ()) =>
      { service, planId, organization, space, parameters })
    (fun request =>
      (request.service, request.planId, request.organization, request.space,
        request.parameters, ()))

end ProvisionRequest

namespace BindResource

/-- How the application of a binding is written and read. -/
def codec : Codec BindResource :=
  .record "struct BindResource" (.cons (.optional "app_guid" .text) .nil)
    (fun (application, ()) => { application })
    (fun resource => (resource.application, ()))

end BindResource

namespace BindRequest

/-- The members of a bind request. -/
def shape : Shape (String × String × Option BindResource × Json × Unit) :=
  .cons (.required "service_id" .text) <|
  .cons (.required "plan_id" .text) <|
  .cons (.optional "bind_resource" BindResource.codec) <|
  .cons parametersMember .nil

/-- How a bind request is written and read. -/
def codec : Codec BindRequest :=
  .record "struct BindRequest" shape
    (fun (service, planId, resource, parameters, ()) =>
      { service, planId, resource, parameters })
    (fun request => (request.service, request.planId, request.resource, request.parameters, ()))

end BindRequest

end GraphBroker.Api
