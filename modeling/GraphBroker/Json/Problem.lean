import GraphBroker.Json.Document
import GraphBroker.Text.Quoted

namespace GraphBroker.Json

/-!
# Why a document does not have a shape

A document that is no JSON is malformed, and nothing more is said of it.  A
document that is JSON of another shape has a problem, found at some place in it:
a path of names and indices.  Lines and columns of the text are left out.
-/

/-- What was found in the place of something else. -/
inductive Found where
  | null
  | flag (value : Bool)
  | number (value : Number)
  | text (value : String)
  | list
  | table

namespace Found

/-- A value inside the marks that messages use. -/
def marked (kind : String) (value : List Char) : String :=
  kind ++ " \x60" ++ String.ofList value ++ "\x60"

/-- The words for what was found. -/
def describe : Found → String
  | .null => "null"
  | .flag value => marked "boolean" (if value then ['t', 'r', 'u', 'e'] else ['f', 'a', 'l', 's', 'e'])
  | .number (.real value) => marked "floating point" (Number.real value).chars
  | .number value => marked "integer" value.chars
  | .text value => "string " ++ Text.quoted value
  | .list => "sequence"
  | .table => "map"

end Found

/-- How a document differs from the shape wanted. -/
inductive Problem where
  /-- Another kind of value than the one wanted. -/
  | wrongType (found : Found) (expected : String)
  /-- The right kind of value, outside its range. -/
  | wrongValue (found : Found) (expected : String)
  /-- A list with another number of items than the shape has members. -/
  | wrongLength (length : Nat) (expected : String)
  /-- A list with items left over once the shape has all its members. -/
  | surplus (length : Nat)
  /-- A table of so many members that was to have one. -/
  | surplusMembers (length : Nat)
  | missingField (name : String)
  | duplicateField (name : String)
  | unknownVariant (name : String) (known : List String)
  /-- None of the alternatives of a shape fits. -/
  | noAlternative (shape : String)
  /-- A value that its reader refuses, in the reader's words. -/
  | refused (reason : String)

namespace Problem

/-- Names between marks, with commas. -/
def markedNames (names : List String) : String :=
  ", ".intercalate (names.map fun name => "\x60" ++ name ++ "\x60")

/-- The words for a problem. -/
def message : Problem → String
  | .wrongType found expected =>
      "invalid type: " ++ found.describe ++ ", expected " ++ expected
  | .wrongValue found expected =>
      "invalid value: " ++ found.describe ++ ", expected " ++ expected
  | .wrongLength length expected =>
      "invalid length " ++ toString length ++ ", expected " ++ expected
  | .surplus length =>
      "invalid length " ++ toString length ++ ", expected fewer elements in array"
  | .surplusMembers length =>
      "invalid length " ++ toString length ++ ", expected fewer elements in map"
  | .missingField name => "missing field \x60" ++ name ++ "\x60"
  | .duplicateField name => "duplicate field \x60" ++ name ++ "\x60"
  | .unknownVariant name known =>
      "unknown variant \x60" ++ name ++ "\x60, expected one of " ++ markedNames known
  | .noAlternative shape => "data did not match any variant of untagged enum " ++ shape
  | .refused reason => reason

end Problem

/-- One step from a container into it. -/
inductive PathStep where
  | member (name : String)
  | item (index : Nat)
  deriving Repr, DecidableEq

/-- Why a document could not be read. -/
inductive ReadError where
  /-- The text is no JSON. -/
  | malformed
  /-- The document has another shape at the end of a path. -/
  | mismatch (path : List PathStep) (problem : Problem)

namespace ReadError

/-- The same error, seen from the container around. -/
def within (step : PathStep) : ReadError → ReadError
  | .malformed => .malformed
  | .mismatch path problem => .mismatch (step :: path) problem

/-- A problem at the place where the reader stands. -/
def here (problem : Problem) : ReadError :=
  .mismatch [] problem

/-- What is left over in a text is read no further than the comma before it. -/
def inText : ReadError → ReadError
  | .mismatch _ (.surplus _) | .mismatch _ (.surplusMembers _) => .malformed
  | error => error

/--
The words for an error, without the place where it was found.  A fixed text stands for what
the parser says of a text that is no JSON.
-/
def message : ReadError → String
  | .malformed => "<json syntax error>"
  | .mismatch _ problem => problem.message

/-- The steps of a path, with a dot before each name but the first. -/
def renderPath : List PathStep → String
  | [] => ""
  | .item index :: rest => "[" ++ toString index ++ "]" ++ renderRest rest
  | .member name :: rest => name ++ renderRest rest
where
  renderRest : List PathStep → String
    | [] => ""
    | .item index :: rest => "[" ++ toString index ++ "]" ++ renderRest rest
    | .member name :: rest => "." ++ name ++ renderRest rest

/-- The words for an error, after the place where it was found. -/
def locatedMessage (error : ReadError) : String :=
  match error with
  | .mismatch (step :: path) problem => renderPath (step :: path) ++ ": " ++ problem.message
  | _ => error.message

end ReadError

end GraphBroker.Json
