import GraphBroker.Json.Shape
import GraphBroker.Remote.Exchange
import GraphBroker.Text.Blank
import GraphBroker.Text.Natural

namespace GraphBroker.Remote

/-!
# The client of a graph database server

Every call is a short conversation: the administrator's calls take one request
each, except that access is granted and revoked in two, and adding data takes a
transaction that is always closed again.
-/

open Json

/-- A client for one server and one login. -/
structure Client where
  /-- The address of the server, without slashes at its end. -/
  base : String
  login : Login
  deriving Repr, DecidableEq

/-- The users of a server. -/
structure UserList where
  users : List String

namespace UserList

/-- How the list of users is read. -/
def codec : Codec UserList :=
  .record "struct UserListResponse" (.cons (.defaulted "users" (.list .text) []) .nil)
    (fun (users, ()) => { users })
    (fun list => (list.users, ()))

end UserList

namespace Client

/-- An address without slashes at its end. -/
def withoutSlashes (url : String) : String :=
  String.ofList (url.toList.reverse.dropWhile (· == '/')).reverse

/-- The client for a server and its administrator. -/
def ofServer (server : Server) : Client :=
  ⟨withoutSlashes server.url, server.admin⟩

/-- The address of what is named beneath the server. -/
def endpoint (client : Client) (names : List String) : Except Failure Url :=
  match Url.parse? client.base with
  | none => .error (.invalidUrl client.base)
  | some url => .ok (url.extend names)

/-- The address that a request starts from.  No request is made without a host. -/
def target (client : Client) (names : List String) : Except Failure Url := do
  let url ← client.endpoint names
  if url.hasHost then .ok url else .error (.undelivered .foreignScheme url.render)

/-- What a request accepts unless it says otherwise. -/
def anyType : String := "*/*"

/-- Send a request beneath the server. -/
def send
    (client : Client)
    (method : Method)
    (names : List String)
    (accept : String)
    (body : Body)
    (expected : Http.Status) :
    Session String := do
  let url ← Session.ofExcept (client.target names)
  Session.exchange (Request.toUrl method url client.login accept body) expected

/-- The JSON text of a request body. -/
def jsonBody (document : Document) : Body :=
  .typed "application/json" document.print

/-- The description of a database to create. -/
def databaseDescription (database : String) : Document :=
  .ofMembers [("dbname", .text database), ("files", .ofItems []), ("options", .ofMembers [])]

/-- The description of a user to create.  The password goes one character at a time. -/
def userDescription (username password : String) : Document :=
  .ofMembers
    [("username", .text username), ("superuser", .flag false),
     ("password", .ofItems (password.toList.map fun c => .text (String.singleton c)))]

/-- A permission on a database. -/
def permission (action database : String) : Document :=
  .ofMembers
    [("action", .text action), ("resource_type", .text "db"),
     ("resource", .ofItems [.text database])]

/-- The permissions that make up access to a database, in the order of their requests. -/
def accessActions : List String := ["write", "read"]

/-- Send one request for each permission on a database. -/
def sendPermissions
    (client : Client)
    (method : Method)
    (names : List String)
    (database : String)
    (expected : Http.Status) :
    List String → Session Unit
  | [] => pure ()
  | action :: rest => do
      let _ ← client.send method names anyType (jsonBody (permission action database)) expected
      client.sendPermissions method names database expected rest

/-- Read the list of users from an answer. -/
def readUsers (body : String) : Session UserList :=
  Session.ofExcept ((UserList.codec.read.jsonText body).mapError .malformed)

/-- Carry out an administrator's call. -/
def perform (client : Client) : (call : AdminCall) → Session call.Reply
  | .createDatabase database => do
      let root := (databaseDescription database).print
      let _ ← client.send .post ["admin", "databases"] anyType (.multipart [⟨"root", root⟩]) 201
      return ()
  | .deleteDatabase database => do
      let _ ← client.send .delete ["admin", "databases", database] anyType .empty 200
      return ()
  | .userExists username => do
      let body ← client.send .get ["admin", "users"] "application/json" .empty 200
      let list ← readUsers body
      return list.users.contains username
  | .newUser username password => do
      let description := jsonBody (userDescription username password)
      let _ ← client.send .post ["admin", "users"] anyType description 201
      return ()
  | .deleteUser username => do
      let _ ← client.send .delete ["admin", "users", username] anyType .empty 200
      return ()
  | .grantAccess database username =>
      client.sendPermissions .put ["admin", "permissions", "user", username] database 201
        accessActions
  | .revokeAccess database username =>
      client.sendPermissions .post ["admin", "permissions", "user", username, "delete"] database 200
        accessActions

/-- The size of a database in triples. -/
def databaseSize (client : Client) (database : String) : Session Nat := do
  let body ← client.send .get [database, "size"] "text/plain" .empty 200
  let text := Text.trim body
  match Text.readNatural (UInt64.size - 1) text with
  | .ok size => return size
  | .error _ => throw (.defective (.databaseSize text))

/-- Commit or roll back a transaction. -/
def closeTransaction (client : Client) (database step transaction : String) : Session Unit := do
  let _ ← client.send .post [database, "transaction", step, transaction] anyType .empty 200
  return ()

/-- Send data beneath the server, unless no field of a request can hold its content type. -/
def sendData (client : Client) (names : List String) (contentType payload : String) :
    Session String :=
  if contentType.toList.all Session.isFieldChar then
    client.send .post names "text/plain" (.typed contentType payload) 200
  else do
    let url ← Session.ofExcept (client.target names)
    throw (.undelivered .unwritableField url.withoutLogin.render)

/-- Add data within a transaction and commit it. -/
def addAndCommit (client : Client) (database transaction contentType payload : String) :
    Session Unit := do
  let _ ← client.sendData [database, transaction, "add"] contentType payload
  client.closeTransaction database "commit" transaction

/--
Add data to a database in a transaction of its own.  When the data cannot be
added or committed the transaction is rolled back, and what went wrong first is
the result, whatever becomes of the rollback.
-/
def addData (client : Client) (database contentType payload : String) : Session Unit := do
  let body ← client.send .post [database, "transaction", "begin"] "text/plain" .empty 200
  let transaction := Text.trim body
  try
    client.addAndCommit database transaction contentType payload
  catch failure =>
    try
      client.closeTransaction database "rollback" transaction
    catch _ =>
      pure ()
    throw failure

/-- Send a request whose address ends in a query. -/
def query (client : Client) (database query : String) : Session String := do
  let url ← Session.ofExcept (client.target [database, "query"])
  let asking := url.addQuery (Text.Form.render [⟨"query", query⟩])
  Session.exchange
    (Request.toUrl .get asking client.login "application/sparql-results+json" .empty) 200

/-- Run an update. -/
def update (client : Client) (database update : String) : Session Unit := do
  let _ ← client.send .post [database, "update"] anyType (.form [⟨"query", update⟩]) 200
  return ()

end Client

end GraphBroker.Remote
