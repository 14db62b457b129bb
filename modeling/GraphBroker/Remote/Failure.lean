import GraphBroker.Admin.Call
import GraphBroker.Http.Status
import GraphBroker.Json.Problem

namespace GraphBroker.Remote

/-!
# What can go wrong with a server

A request may not be sent at all, may go unanswered, or may be answered by
something else than was expected.
-/

/-- Why a request has no answer. -/
inductive Undelivered where
  /-- Requests are not sent to URLs of this scheme. -/
  | foreignScheme
  /-- The URL has no place in a request. -/
  | unwritable
  /-- A text has no place in a field of a request. -/
  | unwritableField
  /-- It was sent, or was to be sent, and no answer came. -/
  | unanswered
  deriving Repr, DecidableEq

/-- What is wrong with the body of an answer. -/
inductive Defect where
  /-- The size of a database is no number. -/
  | databaseSize (text : String)
  /-- A row of a query's result lacks a column. -/
  | missingColumn (name : String)
  /-- An operation that a rehearsal makes fail. -/
  | forced (operation : AdminOperation)
  deriving Repr, DecidableEq

/-- Why a call on a server failed. -/
inductive Failure where
  | undelivered (reason : Undelivered) (url : String)
  | unexpectedStatus (method : String) (url : String) (expected : Http.Status) (actual : Http.Status)
  | malformed (error : Json.ReadError)
  | defective (defect : Defect)
  | invalidUrl (base : String)

namespace Undelivered

/-- The words for a missing answer. -/
def message : Undelivered → String
  | .foreignScheme | .unwritable | .unwritableField => "builder error"
  | .unanswered => "error sending request"

/-- The words for a missing answer, with the URL unless the request was given up without one. -/
def describe (url : String) : Undelivered → String
  | .unwritableField => unwritableField.message
  | reason => reason.message ++ " for url (" ++ url ++ ")"

end Undelivered

namespace Defect

/-- The words for a defective answer. -/
def message : Defect → String
  | .databaseSize text => "database size \x60" ++ text ++ "\x60"
  | .missingColumn name => "query result row has no \x60" ++ name ++ "\x60 column"
  | .forced operation => "forced failure of " ++ operation.name

end Defect

namespace Failure

/-- The words for a failed call. -/
def message : Failure → String
  | .undelivered reason url => "request to Stardog failed: " ++ reason.describe url
  | .unexpectedStatus method url expected actual =>
      "expected " ++ expected.describe ++ " but got " ++ actual.describe
        ++ " when " ++ method ++ " to " ++ url
  | .malformed error => "malformed Stardog response: " ++ error.message
  | .defective defect => "unexpected Stardog response: " ++ defect.message
  | .invalidUrl base => "invalid Stardog URL \x60" ++ base ++ "\x60"

end Failure

end GraphBroker.Remote
