import GraphBroker.Dialogue
import GraphBroker.Remote.Failure
import GraphBroker.Remote.Url.Reader
import GraphBroker.Text.Form

namespace GraphBroker.Remote

/-!
# Requests to a server and their answers

A request is what goes over the wire, except for the boundary of a multipart
body, which is chosen when the body is written.  An exchange sends one request
and gets an answer or none.

An answer has a status and a body, and no fields: they are read by what carries the
requests, which lies outside of the model.  It follows the redirections that a server
asks for, and decodes bodies, so that an answer here is what it returns in the end.
-/

/-- The methods of requests to a server. -/
inductive Method where
  | get
  | post
  | put
  | delete
  deriving Repr, DecidableEq

/-- The body of a request. -/
inductive Body where
  | empty
  | typed (contentType : String) (text : String)
  /-- Fields in the encoding of a query. -/
  | form (fields : List Text.Form.Field)
  /-- Fields as the parts of one document. -/
  | multipart (fields : List Text.Form.Field)
  deriving Repr, DecidableEq

/-- A request to a server. -/
structure Request where
  method : Method
  url : Url
  /-- A login that came with the URL, which is presented as well. -/
  urlLogin : Option Login
  login : Login
  accept : String
  body : Body
  deriving Repr, DecidableEq

/-- An answer of a server in the end, after whatever redirections, and without its fields. -/
structure Response where
  status : Http.Status
  body : List UInt8
  deriving Repr, DecidableEq

namespace Request

/-- A request to a URL, which loses the login that it presents. -/
def toUrl (method : Method) (url : Url) (login : Login) (accept : String) (body : Body) : Request :=
  { method, url := url.withoutLogin, urlLogin := url.login?, login, accept, body }

end Request

namespace Method

/-- The name of a method on the wire. -/
def name : Method → String
  | .get => "GET"
  | .post => "POST"
  | .put => "PUT"
  | .delete => "DELETE"

end Method

namespace Multipart

/-- One part of a multipart document, after the boundary before it. -/
def renderPart (field : Text.Form.Field) : String :=
  "\r\nContent-Disposition: form-data; name=\"" ++ field.name ++ "\"\r\n\r\n"
    ++ field.value ++ "\r\n"

/-- A multipart document. -/
def render (boundary : String) (fields : List Text.Form.Field) : String :=
  String.join (fields.map fun field => "--" ++ boundary ++ renderPart field)
    ++ "--" ++ boundary ++ "--\r\n"

end Multipart

namespace Body

/-- The text of a body, with a boundary for its parts. -/
def render (boundary : String) : Body → String
  | .empty => ""
  | .typed _ text => text
  | .form fields => Text.Form.render fields
  | .multipart fields => Multipart.render boundary fields

/-- The content type of a body. -/
def contentType? (boundary : String) : Body → Option String
  | .empty => none
  | .typed contentType _ => some contentType
  | .form _ => some "application/x-www-form-urlencoded"
  | .multipart _ => some ("multipart/form-data; boundary=" ++ boundary)

end Body

/-- The name under which the broker sends its requests. -/
def userAgent : String := "stardog-service-broker/0.1.0"

/-- Conversations over the wire. -/
def wire : Protocol :=
  ⟨Request, fun _ => Option Response⟩

/-- Steps of a conversation over the wire that end at the first failure. -/
abbrev Session (α : Type) : Type :=
  ExceptT Failure (Dialogue wire) α

namespace Session

/-- A result that needs no request. -/
def ofExcept (result : Except Failure α) : Session α :=
  ExceptT.mk (.done result)

/-- The greatest number of bytes in the URL of a request. -/
def urlLimit : Nat := 65534

/-- A character of a host that a request cannot name. -/
def isUnwritable (c : Char) : Bool :=
  ['"', '\x60', '\x7b', '\x7d'].contains c

/-- Why no request can be sent to a URL. -/
def obstacle? (url : Url) : Option Undelivered :=
  if ¬ url.isHttp then some .foreignScheme
  else if urlLimit < url.render.utf8ByteSize ∨ url.host.toList.any isUnwritable then
    some .unwritable
  else
    none

/-- A character that a field of a request can hold. -/
def isFieldChar (c : Char) : Bool :=
  c == '\t' || (' ' ≤ c && c != '\x7f')

/--
Send a request and require an answer with one status: the text of its body.  The reply is what
comes of the request in the end, so that redirections on the way to it are not seen.
-/
def exchange (request : Request) (expected : Http.Status) : Session String :=
  match obstacle? request.url with
  | some obstacle => throw (.undelivered obstacle request.url.render)
  | none =>
      ExceptT.mk <| .ask request fun
        | none => .done (.error (.undelivered .unanswered request.url.render))
        | some response =>
            if response.status = expected then
              .done (.ok (Text.Utf8.decodeLossy response.body))
            else
              .done (.error (.unexpectedStatus request.method.name request.url.render expected
                response.status))

end Session

/-- The other end of the wire, as far as a rehearsal needs it. -/
inductive Peer where
  /-- Nobody answers. -/
  | unreachable
  /-- The answers to come, where nothing stands for a connection that is dropped. -/
  | scripted (replies : List (Option Response))

namespace Peer

/-- The answer once a script has ended. -/
def exhausted : Response :=
  ⟨500, []⟩

/-- Answer a request. -/
def answer (_ : Request) : Peer → Option Response × Peer
  | .unreachable => (none, .unreachable)
  | .scripted [] => (some exhausted, .scripted [])
  | .scripted (reply :: rest) => (reply, .scripted rest)

end Peer

end GraphBroker.Remote
