import GraphBroker.Broker.Basic

namespace GraphBroker.Broker

/-!
# The lifecycle of instances and bindings

Every operation looks at the store first, then turns to a server, and then
records what came of it.  A record of an instance or a binding is made after
the server has done its part; the record of a binding is deleted before its user
is.  When a record cannot be made or deleted after the server has done its part,
the answer says so.
-/

/-- Steps of an operation, which ends at the first failure. -/
abbrev Steps (α : Type) : Type := ExceptT Error (Dialogue surroundings) α

/-- Ask the store. -/
def askStore (call : Store.Call) : Dialogue surroundings call.Outcome :=
  .question (P := surroundings) (.store call)

/-- Ask the store, and fail if it does. -/
def store (call : Store.Call) (report : Store.Error → Error) : Steps call.Reply :=
  ExceptT.mk <| (askStore call).andThen fun
    | .ok reply => .done (.ok reply)
    | .error error => .done (.error (report error))

/-- Steps of a plan, whose calls go to the servers of the broker's surroundings. -/
def onServers (steps : Plan.Steps α) : Dialogue surroundings (Except Plan.Error α) :=
  Dialogue.relay
    (fun question => .question (P := surroundings) (.server question))
    steps.run

/-- Steps of a plan as steps of an operation. -/
def throughPlan (steps : Plan.Steps α) (report : Plan.Error → Error) : Steps α :=
  ExceptT.mk <| (onServers steps).andThen fun
    | .ok value => .done (.ok value)
    | .error error => .done (.error (report error))

/-- A result that needs no question. -/
def ofExcept (result : Except Error α) : Steps α :=
  ExceptT.mk (.done result)

/-- Nothing, where a look-up found nothing. -/
def found? : Except Store.Error α → Except Error (Option α)
  | .ok record => .ok (some record)
  | .error error => if error.isNotFound then .ok none else .error (.store error)

/-- The record of an instance, if there is one. -/
def lookUpInstance (id : String) : Steps (Option ServiceInstance) :=
  ExceptT.mk <| (askStore (.getInstance id)).andThen fun outcome => .done (found? outcome)

/-- The record of a binding, if there is one. -/
def lookUpBinding (id bindingId : String) : Steps (Option ServiceBinding) :=
  ExceptT.mk <| (askStore (.getBinding id bindingId)).andThen fun outcome => .done (found? outcome)

/-- The plan of a recorded instance, and the site of its database. -/
def planOf (broker : Broker) (record : ServiceInstance) : Except Error (Plan × Plan.Site) :=
  match broker.plans.find? record.planId with
  | none => .error (.planMissing record.planId record.guid)
  | some plan =>
      match plan.siteOf record with
      | .ok site => .ok (plan, site)
      | .error error => .error (.plan error)

/-- A recorded instance is what a request asks for. -/
def fits
    (plan : Plan)
    (site : Plan.Site)
    (record : ServiceInstance)
    (request : Api.ProvisionRequest) :
    Bool :=
  record.organization == request.organization && record.space == request.space
    && plan.id == request.planId && record.service == request.service
    && plan.describes site request.parameters

/-- Provision an instance, unless there is one with its identifier. -/
def provision (broker : Broker) (draws : Plan.Draws) (id : String) (request : Api.ProvisionRequest) :
    Steps Success := do
  match ← lookUpInstance id with
  | some record =>
      let (plan, site) ← ofExcept (broker.planOf record)
      if fits plan site record request then
        return .alreadyProvisioned
      else
        throw (.conflict id)
  | none =>
      match broker.plans.find? request.planId with
      | none => throw (.unknownPlan request.planId)
      | some plan =>
          let payload ← throughPlan (plan.create draws request.parameters) .plan
          let record : ServiceInstance :=
            { guid := id
              planId := request.planId
              organization := request.organization
              space := request.space
              service := request.service
              payload }
          store (.addInstance id record) (.instanceNotRecorded id)
          return .provisioned

/-- Look an instance up. -/
def describe (id : String) : Steps Success := do
  match ← lookUpInstance id with
  | some _ => return .described
  | none => throw (.instanceNotFound id)

/-- Take back the credentials of bindings one after the other, whatever becomes of each. -/
def sweep (server : Server) : List ServiceBinding → Dialogue surroundings Unit
  | [] => .done ()
  | binding :: rest => (onServers (Plan.unbind server binding)).andThen fun _ => sweep server rest

/--
Deprovision an instance.  Its bindings are cleaned up as far as that is
possible; the record stays if the database could not be deleted, so that the
operation can be tried again.
-/
def deprovision (broker : Broker) (id : String) : Steps Success := do
  match ← lookUpInstance id with
  | none => throw (.instanceGone id)
  | some record =>
      let (_, site) ← ofExcept (broker.planOf record)
      let bindings ← store (.getAllBindings id) .store
      ExceptT.lift (sweep site.server bindings)
      throughPlan (Plan.remove site) .plan
      store (.deleteInstance id) (.instanceNotErased id)
      return .deprovisioned

/-- Issue credentials, unless there is a binding with the identifier. -/
def bind
    (broker : Broker)
    (draws : Plan.Draws)
    (id bindingId : String)
    (request : Api.BindRequest) :
    Steps Success := do
  match ← lookUpInstance id with
  | none => throw (.instanceMissing id)
  | some record =>
      let (plan, _) ← ofExcept (broker.planOf record)
      match ← lookUpBinding id bindingId with
      | some binding =>
          if Plan.sameCredentials binding request.parameters then
            return .alreadyBound binding.payload
          else
            throw (.conflict bindingId)
      | none =>
          let payload ← throughPlan (plan.bind draws record.payload request.parameters) .plan
          store (.addBinding id bindingId ⟨bindingId, payload⟩) (.bindingNotRecorded bindingId)
          return .bound payload

/-- Take credentials back: the record goes first, then the user. -/
def unbind (broker : Broker) (id bindingId : String) : Steps Success := do
  match ← lookUpInstance id with
  | none => throw (.instanceGone id)
  | some record =>
      match ← lookUpBinding id bindingId with
      | none => throw (.bindingGone bindingId)
      | some binding =>
          let (_, site) ← ofExcept (broker.planOf record)
          store (.deleteBinding id bindingId) .store
          throughPlan (Plan.unbind site.server binding) .notRevoked
          return .unbound

/-- The steps of an operation. -/
def steps (broker : Broker) (draws : Plan.Draws) : Operation → Steps Success
  | .provision id request => broker.provision draws id request
  | .describe id => describe id
  | .deprovision id => broker.deprovision id
  | .bind id bindingId request => broker.bind draws id bindingId request
  | .unbind id bindingId => broker.unbind id bindingId

/-- Carry out an operation. -/
def perform (broker : Broker) (draws : Plan.Draws) (operation : Operation) :
    Dialogue surroundings Answer :=
  (broker.steps draws operation).run

end GraphBroker.Broker
