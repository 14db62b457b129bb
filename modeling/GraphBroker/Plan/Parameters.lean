import GraphBroker.Admin.Call
import GraphBroker.Json.Shape

namespace GraphBroker.Plan

/-!
# Parameters and payloads of the plans

The shapes onto which a plan projects what it is given: the parameters of a
request, and the payloads that it produced itself and finds again in the store.
-/

open Json

/-- What a caller says of a database on a shared server; also the payload of such an instance. -/
structure DatabaseChoice where
  /-- The name of the database; blank if it is left to the broker. -/
  database : String
  deriving Repr, DecidableEq

/-- What a caller says of a database on a server of its own; also the payload of such an instance. -/
structure SiteChoice where
  database : String
  url : String
  username : String
  password : String
  deriving Repr, DecidableEq

/-- What a caller says of the user for a binding. -/
structure LoginChoice where
  username : String
  password : String
  deriving Repr, DecidableEq

/-- The credentials of a binding, as they are handed out and as they are kept. -/
structure Credentials where
  database : String
  url : String
  username : String
  password : String
  deriving Repr, DecidableEq

/-- A text that is empty where it is left out. -/
def textMember (name : String) : Member String :=
  .defaulted name .text ""

namespace DatabaseChoice

/-- How a choice of a database is read. -/
def codec : Codec DatabaseChoice :=
  .record "struct InstanceParameters" (.cons (textMember "db_name") .nil)
    (fun (database, ()) => { database })
    (fun choice => (choice.database, ()))

/-- A choice that leaves everything open. -/
def blank : DatabaseChoice :=
  ⟨""⟩

/-- The payload of an instance. -/
def payload (choice : DatabaseChoice) : Json :=
  .object [("db_name", .text choice.database)]

end DatabaseChoice

namespace SiteChoice

/-- How a choice of a site is read. -/
def codec : Codec SiteChoice :=
  .record "struct InstanceParameters"
    (.cons (textMember "db_name") <|
     .cons (textMember "url") <|
     .cons (textMember "username") <|
     .cons (textMember "password") .nil)
    (fun (database, url, username, password, ()) => { database, url, username, password })
    (fun choice => (choice.database, choice.url, choice.username, choice.password, ()))

/-- A choice that leaves everything open. -/
def blank : SiteChoice :=
  ⟨"", "", "", ""⟩

/-- The server of a site. -/
def server (choice : SiteChoice) : Server :=
  ⟨choice.url, ⟨choice.username, choice.password⟩⟩

/-- The payload of an instance. -/
def payload (choice : SiteChoice) : Json :=
  .object
    [("db_name", .text choice.database), ("password", .text choice.password),
     ("url", .text choice.url), ("username", .text choice.username)]

end SiteChoice

namespace LoginChoice

/-- How a choice of a user is read. -/
def codec : Codec LoginChoice :=
  .record "struct BindParameters"
    (.cons (textMember "username") <|
     .cons (textMember "password") .nil)
    (fun (username, password, ()) => { username, password })
    (fun choice => (choice.username, choice.password, ()))

/-- A choice that leaves everything open. -/
def blank : LoginChoice :=
  ⟨"", ""⟩

end LoginChoice

namespace Credentials

/-- How credentials are read. -/
def codec : Codec Credentials :=
  .record "struct DatabaseBinding"
    (.cons (.required "db_name" .text) <|
     .cons (.required "url" .text) <|
     .cons (.required "username" .text) <|
     .cons (.required "password" .text) .nil)
    (fun (database, url, username, password, ()) => { database, url, username, password })
    (fun credentials =>
      (credentials.database, credentials.url, credentials.username, credentials.password, ()))

/-- Credentials without any content. -/
def blank : Credentials :=
  ⟨"", "", "", ""⟩

/-- The payload of a binding. -/
def payload (credentials : Credentials) : Json :=
  .object
    [("db_name", .text credentials.database), ("password", .text credentials.password),
     ("url", .text credentials.url), ("username", .text credentials.username)]

end Credentials

/-- How the address and the administrator of a server are read, under a title for messages. -/
def serverCodec (title : String) : Codec Server :=
  .record title
    (.cons (.required "stardog_url" .text) <|
     .cons (.required "admin_username" .text) <|
     .cons (.required "admin_password" .text) .nil)
    (fun (url, username, password, ()) => ⟨url, ⟨username, password⟩⟩)
    (fun server => (server.url, server.admin.username, server.admin.password, ()))

/-- A value projected onto a shape, where `null` stands for the shape without content. -/
def project (codec : Codec α) (blank : α) (value : Json) : Except ReadError α :=
  if value.isNull then .ok blank else codec.read.json value

end GraphBroker.Plan
