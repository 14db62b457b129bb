import GraphBroker.Http.Message
import GraphBroker.Remote.Exchange
import GraphBroker.Text.Base64

namespace GraphBroker.Remote

/-!
# Requests and answers as messages

Every request goes over a connection of its own, which the server is asked to
end after its answer.
-/

namespace Url

/-- The port at which requests for a URL are taken. -/
def knownPort (url : Url) : Nat :=
  url.port?.getD (((standardPort? url.scheme).bind id).getD 0)

end Url

namespace Request

/-- The value of the field that presents a login. -/
def presented (login : Login) : String :=
  "Basic " ++ Text.Base64.encode (Text.Utf8.encode (login.username ++ ":" ++ login.password))

/-- The length of a body is told, even of an empty one where a body is usual. -/
def needsLength (request : Request) : Bool :=
  match request.method, request.body with
  | .get, .empty | .delete, .empty => false
  | _, _ => true

/-- The message of a request, with a boundary for the parts of its body. -/
def message (boundary : String) (request : Request) : Http.Message :=
  let body := Text.Utf8.encode (request.body.render boundary)
  let field (name value : String) : Http.Field := (name, Text.Utf8.encode value)
  { head :=
      { opening := request.method.name ++ " " ++ request.url.target ++ " HTTP/1.1"
        fields :=
          [field "host" request.url.place, field "connection" "close",
           field "user-agent" userAgent, field "accept" request.accept]
            ++ ((request.urlLogin.toList ++ [request.login]).map fun login =>
              field "authorization" (presented login))
            ++ ((request.body.contentType? boundary).map (field "content-type")).toList
            ++ if request.needsLength then [field "content-length" (toString body.length)] else [] }
    body }

end Request

namespace Response

/-- The status in the first line of an answer. -/
def status? (head : Http.Head) : Option Http.Status :=
  match head.words with
  | _ :: code :: _ => if code.length = 3 then Text.digitsValue? 10 code.toList else none
  | _ => none

/-- Where the body of an answer ends: two statuses never have one. -/
def extent? (head : Http.Head) : Option Http.Extent :=
  match status? head with
  | none => none
  | some 204 | some 304 => some (.length 0)
  | some _ => head.extent? .untilClosed

/-- Read an answer, where it is known whether the connection has ended. -/
def read (ended : Bool) (bytes : List UInt8) : Http.Arrival Response :=
  (Http.Message.read extent? ended bytes).andThen fun message rest =>
    match status? message.head with
    | none => .malformed
    | some status => .whole { status, body := message.body } rest

end Response

end GraphBroker.Remote
