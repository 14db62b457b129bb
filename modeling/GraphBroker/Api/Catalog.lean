import GraphBroker.Json.Shape

namespace GraphBroker.Api

/-!
# The catalog document

What the broker offers: a list of services, each with its plans.
-/

open Json

/-- A plan of a service. -/
structure CatalogPlan where
  name : String
  id : String
  description : String
  metadata : Option Json
  free : Bool
  bindable : Bool

/-- A service that is offered. -/
structure CatalogService where
  name : String
  id : String
  description : String
  bindable : Bool
  planUpdateable : Bool
  plans : List CatalogPlan

/-- Everything that is offered. -/
structure Catalog where
  services : List CatalogService

namespace CatalogPlan

/-- The members of a plan. -/
def shape : Shape (String × String × String × Option Json × Bool × Bool × Unit) :=
  .cons (.required "name" .text) <|
  .cons (.required "id" .text) <|
  .cons (.required "description" .text) <|
  .cons (.optional "metadata" .value) <|
  .cons (.mark "free") <|
  .cons (.mark "bindable") .nil

/-- How a plan is written and read. -/
def codec : Codec CatalogPlan :=
  .record "struct ServicePlan" shape
    (fun (name, id, description, metadata, free, bindable, ()) =>
      { name, id, description, metadata, free, bindable })
    (fun plan =>
      (plan.name, plan.id, plan.description, plan.metadata, plan.free, plan.bindable, ()))

end CatalogPlan

namespace CatalogService

/-- The members of a service. -/
def shape : Shape (String × String × String × Bool × Bool × List CatalogPlan × Unit) :=
  .cons (.required "name" .text) <|
  .cons (.required "id" .text) <|
  .cons (.required "description" .text) <|
  .cons (.required "bindable" .flag) <|
  .cons (.required "plan_updateable" .flag) <|
  .cons (.required "plans" CatalogPlan.codec.list) .nil

/-- How a service is written and read. -/
def codec : Codec CatalogService :=
  .record "struct CatalogService" shape
    (fun (name, id, description, bindable, planUpdateable, plans, ()) =>
      { name, id, description, bindable, planUpdateable, plans })
    (fun service =>
      (service.name, service.id, service.description, service.bindable, service.planUpdateable,
        service.plans, ()))

end CatalogService

namespace Catalog

/-- How a catalog is written and read. -/
def codec : Codec Catalog :=
  .record "struct CatalogResponse" (.cons (.required "services" CatalogService.codec.list) .nil)
    (fun (services, ()) => { services })
    (fun catalog => (catalog.services, ()))

end Catalog

end GraphBroker.Api
