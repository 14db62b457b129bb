import GraphBroker.Json.Number

namespace GraphBroker

/-!
# JSON values

A value that the broker carries without looking into it.  The members of an
object are kept in ascending order of their keys, one for each key.
-/

/-- A JSON value. -/
inductive Json where
  | null
  | bool (value : Bool)
  | number (value : Json.Number)
  | text (value : String)
  | array (items : List Json)
  | object (members : List (String × Json))

namespace Json

/-- The value is `null`. -/
def isNull : Json → Bool
  | .null => true
  | _ => false

instance : Inhabited Json :=
  ⟨.null⟩

end Json

end GraphBroker
