import GraphBroker.Admin.Protocol
import GraphBroker.Api.Catalog
import GraphBroker.Plan.Draws
import GraphBroker.Plan.Parameters
import GraphBroker.Record.Basic

namespace GraphBroker

/-!
# Plans

A plan says where the databases of its instances live: on one server that the
broker's configuration names, or on a server that the caller names for each
instance and whose login is kept with the instance.
-/

/-- The two kinds of plans. -/
inductive Plan.Kind where
  /-- Every instance is a new database on this server. -/
  | shared (server : Server)
  /-- Every instance names its own server. -/
  | perInstance
  deriving Repr, DecidableEq

/-- A plan that is offered. -/
structure Plan where
  id : String
  kind : Plan.Kind
  deriving Repr, DecidableEq

namespace Plan

/-- A database and the server where it lives. -/
structure Site where
  database : String
  server : Server
  deriving Repr, DecidableEq

/-- Why an operation of a plan failed. -/
inductive Error where
  /-- The parameters of a request do not have the plan's shape. -/
  | malformedParameters
  /-- The payload of an instance does not have the plan's shape. -/
  | malformedPayload
  | urlRequired
  | passwordRequired
  /-- A call on the server failed. -/
  | server (failure : Remote.Failure)
  | userCheckFailed
  | userExists (username : String)
  | userNotCreated
  | accessNotGranted (database : String) (username : String)
  | unreadableInstance (guid : String) (error : Json.ReadError)
  | unreadableBinding (guid : String) (error : Json.ReadError)

namespace Error

/-- The status to report for a failed operation. -/
def status : Error → Http.Status
  | .malformedParameters | .malformedPayload | .urlRequired | .passwordRequired => 400
  | .userExists _ => 409
  | .server _ | .userCheckFailed | .userNotCreated | .accessNotGranted _ _ => 500
  | .unreadableInstance _ _ | .unreadableBinding _ _ => 500

/-- The words for a failed operation. -/
def message : Error → String
  | .malformedParameters => "The parameters were not properly formed"
  | .malformedPayload => "The plan specific parameters were poorly formed"
  | .urlRequired => "A Stardog URL is required"
  | .passwordRequired => "An admin password is required"
  | .server failure => failure.message
  | .userCheckFailed => "UserExists check failed"
  | .userExists username => "Failed to create the user because " ++ username ++ " already exists"
  | .userNotCreated => "Failed to create the user"
  | .accessNotGranted database username =>
      "Failed to grant access on " ++ database ++ " to the user " ++ username
  | .unreadableInstance guid error =>
      "stored parameters of " ++ guid ++ " are not readable: " ++ error.message
  | .unreadableBinding guid error =>
      "binding " ++ guid ++ " is not readable: " ++ error.message

end Error

/-! ## The catalog entry -/

/-- The name of a plan in the catalog. -/
def name (plan : Plan) : String :=
  match plan.kind with
  | .shared _ => "shareddb"
  | .perInstance => "perinstance"

/-- What the catalog says of a plan. -/
def description (plan : Plan) : String :=
  match plan.kind with
  | .shared _ =>
      "Creates a new Stardog database on an existing server. "
        ++ "The Stardog server maybe shared by many applications."
  | .perInstance => "Associate each instance with an existing Stardog knowledge graph."

/-- The entry of a plan in the catalog. -/
def catalogEntry (plan : Plan) : Api.CatalogPlan :=
  { name := plan.name
    id := plan.id
    description := plan.description
    metadata := none
    free := true
    bindable := true }

/-! ## Sites -/

/-- The site that a payload describes. -/
def site? (plan : Plan) (payload : Json) : Except Json.ReadError Site :=
  match plan.kind with
  | .shared server =>
      (project DatabaseChoice.codec .blank payload).map fun choice => ⟨choice.database, server⟩
  | .perInstance =>
      (project SiteChoice.codec .blank payload).map fun choice => ⟨choice.database, choice.server⟩

/-- The site before anything is known of it. -/
def blankSite (plan : Plan) : Site :=
  match plan.kind with
  | .shared server => ⟨"", server⟩
  | .perInstance => ⟨"", SiteChoice.blank.server⟩

/-- The site of a recorded instance. -/
def siteOf (plan : Plan) (record : ServiceInstance) : Except Error Site :=
  (plan.site? record.payload).mapError (.unreadableInstance record.guid)

/-- The name of the database that parameters ask for. -/
def requestedDatabase (plan : Plan) (parameters : Json) : Except Json.ReadError String :=
  (plan.site? parameters).map Site.database

/--
Parameters describe a site if they have the plan's shape and ask for its
database or leave the choice open.
-/
def describes (plan : Plan) (site : Site) (parameters : Json) : Bool :=
  match plan.requestedDatabase parameters with
  | .ok database => database == "" || database == site.database
  | .error _ => false

/-- A request for a binding asks for the very user that the binding has. -/
def sameCredentials (binding : ServiceBinding) (parameters : Json) : Bool :=
  match project LoginChoice.codec .blank parameters,
      project Credentials.codec .blank binding.payload with
  | .ok requested, .ok held =>
      requested.username == held.username && requested.password == held.password
  | _, _ => false

/-! ## Operations -/

/-- Steps of an operation, which ends at the first failure. -/
abbrev Steps (α : Type) : Type := ExceptT Error (Dialogue administration) α

/-- Call a server, and say what is reported if the call fails. -/
def call (server : Server) (call : AdminCall) (report : Remote.Failure → Error) :
    Steps call.Reply :=
  ExceptT.mk <| .ask (P := administration) ⟨server, call⟩ fun
    | .ok reply => .done (.ok reply)
    | .error failure => .done (.error (report failure))

/-- A result that needs no call. -/
def ofExcept (result : Except Error α) : Steps α :=
  ExceptT.mk (.done result)

/-- A text, or another where it is empty. -/
def orElse (text fallback : String) : String :=
  if text.isEmpty then fallback else text

/-- Provision an instance: its database is created, and the payload says where. -/
def create (plan : Plan) (draws : Draws) (parameters : Json) : Steps Json :=
  match plan.kind with
  | .shared server => do
      let choice ← ofExcept
        ((project DatabaseChoice.codec .blank parameters).mapError fun _ => .malformedParameters)
      let chosen : DatabaseChoice := ⟨orElse choice.database draws.databaseName⟩
      let _ ← call server (.createDatabase chosen.database) .server
      return chosen.payload
  | .perInstance => do
      let choice ← ofExcept
        ((project SiteChoice.codec .blank parameters).mapError fun _ => .malformedParameters)
      if choice.url.isEmpty then
        throw .urlRequired
      if choice.password.isEmpty then
        throw .passwordRequired
      let chosen : SiteChoice :=
        { choice with
          username := orElse choice.username "admin"
          database := orElse choice.database draws.databaseName }
      let _ ← call chosen.server (.createDatabase chosen.database) .server
      return chosen.payload

/-- Deprovision an instance: its database is deleted. -/
def remove (site : Site) : Steps Unit := do
  let _ ← call site.server (.deleteDatabase site.database) .server
  return ()

/--
Issue credentials for a database: a user that does not exist yet is created and
let in.  A name or a password that the caller left open is generated.
-/
def issue (site : Site) (draws : Draws) (parameters : Json) : Steps Json := do
  let choice ← ofExcept
    ((project LoginChoice.codec .blank parameters).mapError fun _ => .malformedParameters)
  let credentials : Credentials :=
    { database := site.database
      url := site.server.url
      username := orElse choice.username draws.userName
      password := orElse choice.password draws.userPassword }
  let known : Bool ← call site.server (.userExists credentials.username) fun _ => .userCheckFailed
  if known then
    throw (.userExists credentials.username)
  let _ ← call site.server (.newUser credentials.username credentials.password)
    fun _ => .userNotCreated
  let _ ← call site.server (.grantAccess credentials.database credentials.username)
    fun _ => .accessNotGranted credentials.database credentials.username
  return credentials.payload

/-- Issue credentials for the instance that a payload describes. -/
def bind (plan : Plan) (draws : Draws) (payload parameters : Json) : Steps Json := do
  let site ← ofExcept ((plan.site? payload).mapError fun _ => .malformedPayload)
  issue site draws parameters

/-- Take credentials back: the user is kept out of the database and deleted. -/
def unbind (server : Server) (binding : ServiceBinding) : Steps Unit := do
  let credentials ← ofExcept
    ((project Credentials.codec .blank binding.payload).mapError (.unreadableBinding binding.guid))
  let _ ← call server (.revokeAccess credentials.database credentials.username) .server
  let _ ← call server (.deleteUser credentials.username) .server
  return ()

end Plan

end GraphBroker
