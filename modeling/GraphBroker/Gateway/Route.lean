import GraphBroker.Text.Blank
import GraphBroker.Text.Percent
import GraphBroker.Text.Split
import GraphBroker.Text.Utf8

namespace GraphBroker.Gateway

/-!
# Routes

Paths are matched as they are written; only then are the identifiers in them
decoded.  An identifier is one segment, which is not empty, except that an
instance's identifier may be empty before the segment for its bindings.
-/

/-- The places that the broker answers at, with identifiers as they are written. -/
inductive Route where
  | catalog
  | serviceInstance (id : String)
  /-- An instance whose identifier is left out. -/
  | unnamedInstance
  | serviceBinding (id : String) (bindingId : String)
  /-- A binding whose identifier is left out. -/
  | unnamedBinding
  deriving Repr, DecidableEq

/-- Why the identifiers of a route are no use. -/
inductive MissingId where
  | serviceInstance
  | serviceBinding
  deriving Repr, DecidableEq

/-- The words for a missing identifier. -/
def MissingId.message : MissingId → String
  | .serviceInstance => "service_instance_GUID is required"
  | .serviceBinding => "service_binding_GUID is required"

/-- The path of a request's target: without the query, and without the authority if it has one. -/
def pathOf (target : String) : String :=
  let path := target.toList.takeWhile fun c => c != '?' && c != '#'
  match path with
  | '/' :: _ => String.ofList path
  | _ =>
      let scheme := path.takeWhile (· != ':')
      match path.drop scheme.length with
      | ':' :: '/' :: '/' :: rest =>
          match rest.dropWhile (· != '/') with
          | [] => "/"
          | after => String.ofList after
      | _ => String.ofList path

namespace Route

/-- The place at a path. -/
def ofPath? (path : String) : Option Route :=
  match Text.splitAtSlashes path with
  | ["", "v2", "catalog"] => some .catalog
  | ["", "v2", "service_instances", id] =>
      if id = "" then some .unnamedInstance else some (.serviceInstance id)
  | ["", "v2", "service_instances", id, "service_bindings", bindingId] =>
      if bindingId = "" then some .unnamedBinding else some (.serviceBinding id bindingId)
  | _ => none

/-- The methods of a place, in the order in which they are announced; nothing if it takes any. -/
def methods : Route → Option (List String)
  | .catalog => some ["GET", "HEAD"]
  | .serviceInstance _ => some ["PUT", "GET", "HEAD", "DELETE"]
  | .serviceBinding _ _ => some ["PUT", "DELETE"]
  | .unnamedInstance | .unnamedBinding => none

end Route

/-- The text behind a percent-encoded identifier. -/
def decodeId? (raw : String) : Option String :=
  Text.Utf8.decode? (Text.Percent.decode (Text.Utf8.encode raw))

/-- The identifier of an instance. -/
def instanceId (raw : String) : Except MissingId String :=
  match decodeId? raw with
  | some id => if Text.IsBlank id then .error .serviceInstance else .ok id
  | none => .error .serviceInstance

/-- The identifiers of an instance and a binding. -/
def bindingIds (raw rawBinding : String) : Except MissingId (String × String) :=
  match decodeId? raw, decodeId? rawBinding with
  | some id, some bindingId =>
      if Text.IsBlank id then .error .serviceInstance
      else if Text.IsBlank bindingId then .error .serviceBinding
      else .ok (id, bindingId)
  | _, _ => .error .serviceBinding

end GraphBroker.Gateway
