import GraphBroker.Api.Request
import GraphBroker.Api.Response
import GraphBroker.Plan.Registry
import GraphBroker.Store.Basic

namespace GraphBroker

/-!
# The broker and its operations

The broker offers its plans and keeps what it did for the platform in a store.
This module says what it can be asked to do and what it answers; how it gets
there is told in `Broker.Lifecycle`.
-/

/-- A broker: its identifier, its plans, and the login that the platform must present. -/
structure Broker where
  id : String
  plans : Registry
  login : Login

namespace Broker

/-- What the platform asks of the broker, beyond the catalog. -/
inductive Operation where
  /-- Provision an instance. -/
  | provision (id : String) (request : Api.ProvisionRequest)
  /-- Look an instance up. -/
  | describe (id : String)
  /-- Deprovision an instance and everything bound to it. -/
  | deprovision (id : String)
  /-- Issue credentials for an instance. -/
  | bind (id : String) (bindingId : String) (request : Api.BindRequest)
  /-- Take credentials back. -/
  | unbind (id : String) (bindingId : String)

/-- What an operation came to. -/
inductive Success where
  /-- The instance was provisioned. -/
  | provisioned
  /-- An instance that fits the request is there already. -/
  | alreadyProvisioned
  | described
  | deprovisioned
  /-- Credentials were issued. -/
  | bound (credentials : Json)
  /-- A binding that fits the request is there already. -/
  | alreadyBound (credentials : Json)
  | unbound

/-- Why an operation failed. -/
inductive Error where
  | unknownPlan (planId : String)
  | instanceNotFound (id : String)
  /-- Another instance, or another binding, has the identifier. -/
  | conflict (id : String)
  | instanceGone (id : String)
  | bindingGone (bindingId : String)
  /-- The instance for a binding is not there. -/
  | instanceMissing (id : String)
  /-- The plan of a recorded instance is not offered. -/
  | planMissing (planId : String) (guid : String)
  | instanceNotRecorded (id : String) (error : Store.Error)
  | instanceNotErased (id : String) (error : Store.Error)
  | bindingNotRecorded (bindingId : String) (error : Store.Error)
  /-- The record of a binding was deleted, and then its user could not be. -/
  | notRevoked (error : Plan.Error)
  | plan (error : Plan.Error)
  | store (error : Store.Error)

/-- What comes back from an operation. -/
abbrev Answer : Type := Except Error Success

namespace Success

/-- The status of a success. -/
def status : Success → Http.Status
  | .provisioned | .bound _ => 201
  | .alreadyProvisioned | .described | .deprovisioned | .alreadyBound _ | .unbound => 200

/-- The body that reports a success. -/
def body : Success → Json.Document
  | .provisioned | .alreadyProvisioned | .deprovisioned | .unbound => Api.blankCodec.write ()
  | .described => Api.InstanceDescription.codec.write .blank
  | .bound credentials | .alreadyBound credentials =>
      Api.BindingDescription.codec.write ⟨credentials⟩

end Success

namespace Error

/-- The status of a failure. -/
def status : Error → Http.Status
  | .unknownPlan _ => 400
  | .instanceNotFound _ => 404
  | .conflict _ => 409
  | .instanceGone _ | .bindingGone _ => 410
  | .instanceMissing _ | .planMissing _ _ => 500
  | .instanceNotRecorded _ _ | .instanceNotErased _ _ | .bindingNotRecorded _ _ => 500
  | .notRevoked _ => 500
  | .plan error => error.status
  | .store (.invalidKey _) => 400
  | .store _ => 500

/-- The words for a failure. -/
def message : Error → String
  | .unknownPlan planId => planId ++ " is not a known plan"
  | .instanceNotFound id => "The service with ID " ++ id ++ " was not found"
  | .conflict id => id ++ " already exists with different values"
  | .instanceGone id | .instanceMissing id => "service_instance_GUID " ++ id ++ " does not exist"
  | .bindingGone bindingId => "service_binding_GUID " ++ bindingId ++ " does not exist"
  | .planMissing planId guid =>
      "The plan " ++ planId ++ " of instance " ++ guid ++ " is not in the catalog"
  | .instanceNotRecorded id error =>
      "Failed to record instance " ++ id ++ ": " ++ error.message
  | .instanceNotErased id error =>
      "Failed to delete the record of instance " ++ id ++ ": " ++ error.message
  | .bindingNotRecorded bindingId error =>
      "Failed to record binding " ++ bindingId ++ ": " ++ error.message
  | .notRevoked error | .plan error => error.message
  | .store error => error.message

end Error

/-- The catalog of a broker: one service with all its plans. -/
def catalog (broker : Broker) : Api.Catalog :=
  { services :=
      [{ name := "Stardog"
         id := broker.id
         description := "Provides access to a Stardog database"
         bindable := true
         planUpdateable := false
         plans := broker.plans.catalogEntries }] }

/-- What the broker may ask while it carries out an operation. -/
inductive Question where
  | store (call : Store.Call)
  | server (question : AdminQuestion)

/-- What answers a question of the broker. -/
def Question.Reply : Question → Type
  | .store call => call.Outcome
  | .server question => question.Outcome

/-- Conversations of the broker with its store and with servers. -/
def surroundings : Protocol :=
  ⟨Question, Question.Reply⟩

/-- Answer the broker's questions from a store and from the partner of its conversations with servers. -/
def respond
    (store : (call : Store.Call) → σ → call.Outcome × σ)
    (server : (question : AdminQuestion) → τ → question.Outcome × τ) :
    (question : Question) → σ × τ → question.Reply × (σ × τ)
  | .store call, (records, others) =>
      let (outcome, records) := store call records
      (outcome, (records, others))
  | .server question, (records, others) =>
      let (outcome, others) := server question others
      (outcome, (records, others))

end Broker

end GraphBroker
