import GraphBroker.Broker.Lifecycle
import GraphBroker.Gateway.Credentials
import GraphBroker.Gateway.MediaType
import GraphBroker.Gateway.Route

namespace GraphBroker.Gateway

/-!
# The broker over HTTP

A request passes the gate in a fixed order: its place must be known, its login
must be the broker's, its method must be one of the place's, its identifiers
must be texts that are not blank, and the body of a PUT must be JSON of the
operation's shape.  What fails is answered at once; only what passes becomes an
operation of the broker.
-/

/-- A request of the platform. -/
structure Request where
  method : String
  target : String
  /-- Names and values; the letter case of a name does not matter. -/
  headers : List (String × List UInt8)
  body : List UInt8

/-- An answer to the platform. -/
structure Response where
  status : Http.Status
  allow : Option String
  contentType : Option String
  authenticate : Option String
  body : String
  deriving Repr, DecidableEq

/-- Why the body of a request is not taken. -/
inductive BodyError where
  | contentType
  | tooLong
  | malformed
  | mismatch (error : Json.ReadError)

/-- What becomes of a request at the gate. -/
inductive Passage where
  /-- It is answered at once. -/
  | answered (response : Response)
  /-- It is carried out. -/
  | admitted (operation : Broker.Operation)

/-- The greatest number of bytes in a body. -/
def bodyLimit : Nat := 2 * 1024 * 1024

/-- The words for a body that is not taken. -/
def BodyError.message : BodyError → String
  | .contentType => "Expected request with \x60Content-Type: application/json\x60"
  | .tooLong => "Failed to buffer the request body: length limit exceeded"
  | .malformed =>
      "Failed to parse the request body as JSON: " ++ Json.ReadError.malformed.message
  | .mismatch error =>
      "Failed to deserialize the JSON body into the target type: " ++ error.locatedMessage

namespace Request

/-- The values of a header, in the order of the request. -/
def values (request : Request) (name : String) : List (List UInt8) :=
  request.headers.filterMap fun (other, value) =>
    if String.ofList (other.toList.map Char.toLower) == name then some value else none

/-- The login that a request presents. -/
def login? (request : Request) : Option Login :=
  firstPresented? (request.values "authorization")

/-- Read the body of a request. -/
def read (request : Request) (codec : Json.Codec α) : Except BodyError α :=
  match request.values "content-type" with
  | [] => .error .contentType
  | value :: _ =>
      if !announcesJson value then .error .contentType
      else if bodyLimit < request.body.length then .error .tooLong
      else
        match codec.read.bytes request.body with
        | .ok value => .ok value
        | .error .malformed => .error .malformed
        | .error error => .error (.mismatch error)

end Request

namespace Response

/-- An answer without anything but its status. -/
def bare (status : Http.Status) : Response :=
  ⟨status, none, none, none, ""⟩

/-- An answer with a JSON body. -/
def json (status : Http.Status) (document : Json.Document) : Response :=
  ⟨status, none, some "application/json", none, document.print⟩

/-- An answer that describes an error. -/
def error (status : Http.Status) (message : String) : Response :=
  json status (Api.ErrorDescription.codec.write ⟨message⟩)

/-- The answer to a request without the broker's login. -/
def unauthorized : Response :=
  { error 401 "Authorization failed" with
    authenticate := some "Basic realm=\"stardog-service-broker\"" }

/-- The answer to an operation. -/
def ofAnswer : Broker.Answer → Response
  | .ok success => json success.status success.body
  | .error error => Response.error error.status error.message

/-- The answer announces the methods that may be used. -/
def announcing (methods : List String) (response : Response) : Response :=
  { response with allow := some (",".intercalate methods) }

/-- The answer without its body. -/
def withoutBody (response : Response) : Response :=
  { response with body := "" }

end Response

/-- Admit an operation whose request has been read, and answer any other. -/
def whenRead (read : Except BodyError α) (operation : α → Broker.Operation) : Passage :=
  match read with
  | .ok value => .admitted (operation value)
  | .error error => .answered (.error 400 error.message)

/-- Admit what has its identifiers, and answer what lacks one. -/
def withIds (ids : Except MissingId α) (next : α → Passage) : Passage :=
  match ids with
  | .ok ids => next ids
  | .error missing => .answered (.error 400 missing.message)

/-- What becomes of a request whose place, login and method are right. -/
def dispatch (broker : Broker) (request : Request) : Route → Passage
  | .catalog => .answered (.json 200 (Api.Catalog.codec.write broker.catalog))
  | .unnamedInstance => .answered (.error 400 MissingId.serviceInstance.message)
  | .unnamedBinding => .answered (.error 400 MissingId.serviceBinding.message)
  | .serviceInstance raw =>
      withIds (instanceId raw) fun id =>
        if request.method = "PUT" then
          whenRead (request.read Api.ProvisionRequest.codec) (.provision id)
        else if request.method = "DELETE" then
          .admitted (.deprovision id)
        else
          .admitted (.describe id)
  | .serviceBinding raw rawBinding =>
      withIds (bindingIds raw rawBinding) fun (id, bindingId) =>
        if request.method = "PUT" then
          whenRead (request.read Api.BindRequest.codec) (.bind id bindingId)
        else
          .admitted (.unbind id bindingId)

/-- A place takes a method. -/
def takes (methods : Option (List String)) (method : String) : Bool :=
  match methods with
  | none => true
  | some methods => methods.contains method

/-- What becomes of a request at the gate. -/
def pass (broker : Broker) (request : Request) : Passage :=
  match Route.ofPath? (pathOf request.target) with
  | none => .answered (.bare 404)
  | some route =>
      let permitted := takes route.methods request.method
      let announce (response : Response) : Response :=
        if permitted then response else response.announcing (route.methods.getD [])
      match request.login? with
      | none => .answered (announce .unauthorized)
      | some login =>
          if !accepts broker.login login then .answered (announce .unauthorized)
          else if permitted then dispatch broker request route
          else .answered (announce (.bare 405))

/-- The answer that goes out: to HEAD, without its body. -/
def deliver (request : Request) (response : Response) : Response :=
  if request.method = "HEAD" then response.withoutBody else response

/-- Answer a request. -/
def handle (broker : Broker) (draws : Plan.Draws) (request : Request) :
    Dialogue Broker.surroundings Response :=
  match pass broker request with
  | .answered response => .done (deliver request response)
  | .admitted operation =>
      (broker.perform draws operation).andThen fun answer =>
        .done (deliver request (.ofAnswer answer))

end GraphBroker.Gateway
