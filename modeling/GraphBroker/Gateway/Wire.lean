import GraphBroker.Gateway.Service
import GraphBroker.Http.Message

namespace GraphBroker.Gateway

/-!
# Requests and answers as messages

Requests arrive as messages on a connection and are answered in their order.
The connection stays open until a request asks for its end.
-/

/-- The versions of the protocol that are understood. -/
def versions : List String :=
  ["HTTP/1.1", "HTTP/1.0"]

namespace Request

/-- The request in a message. -/
def ofMessage? (message : Http.Message) : Option Request :=
  match message.head.words with
  | [method, target, version] =>
      if version ∈ versions ∧ method ≠ "" ∧ target ≠ "" then
        some { method, target, headers := message.head.fields, body := message.body }
      else
        none
  | _ => none

/-- Read a message with a request; without a field that says otherwise it has no body. -/
def message (bytes : List UInt8) : Http.Arrival Http.Message :=
  Http.Message.read (fun head => head.extent? (.length 0)) false bytes

end Request

/-- The connection stays open after a message. -/
def staysOpen (message : Http.Message) : Bool :=
  message.head.words.getLast? == some "HTTP/1.1"
    && !(message.head.listed "connection").contains "close".toList

namespace Response

/-- The message of an answer. -/
def message (response : Response) : Http.Message :=
  let body := Text.Utf8.encode response.body
  let field (name : String) (value : Option String) : List Http.Field :=
    (value.map fun value => (name, Text.Utf8.encode value)).toList
  { head :=
      { opening := "HTTP/1.1 " ++ response.status.describe
        fields :=
          field "content-type" response.contentType ++ field "allow" response.allow
            ++ field "www-authenticate" response.authenticate
            ++ field "content-length" (some (toString body.length)) }
    body }

end Response

end GraphBroker.Gateway
