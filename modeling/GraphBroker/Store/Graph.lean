import GraphBroker.Remote.Client
import GraphBroker.Store.Basic
import GraphBroker.Store.Triples

namespace GraphBroker.Store

/-!
# A store in a graph database

Records are kept in a database of their own on a server.  An instance is one
subject, a binding is another, linked to the subject of its instance; both carry
their identifier and their record as stored text.  Identifiers are restricted to
letters, digits, hyphens and underscores, so that they need no escaping in the
names of subjects, and every write follows the look-ups that justify it.
-/

open Json

/-- A store in a database on a server. -/
structure Graph where
  client : Remote.Client
  database : String
  deriving Repr, DecidableEq

/-- The value that a query's result gives to a variable. -/
structure ResultTerm where
  value : String

/-- The rows of a query's result, each with its variables. -/
structure ResultRows where
  rows : List (List (String × ResultTerm))

/-- The result of a query. -/
structure QueryResult where
  results : ResultRows

namespace ResultTerm

/-- How a value is read. -/
def codec : Codec ResultTerm :=
  .record "struct SparqlTerm" (.cons (.required "value" .text) .nil)
    (fun (value, ()) => { value })
    (fun term => (term.value, ()))

end ResultTerm

namespace ResultRows

/-- How one row is read. -/
def rowCodec : Codec (List (String × ResultTerm)) where
  write row := .ofMembers (row.map fun (name, term) => (name, ResultTerm.codec.write term))
  read := Reader.entries ResultTerm.codec.read

/-- How rows are read. -/
def codec : Codec ResultRows :=
  .record "struct SparqlResults" (.cons (.defaulted "bindings" (.list rowCodec) []) .nil)
    (fun (rows, ()) => { rows })
    (fun results => (results.rows, ()))

end ResultRows

namespace QueryResult

/-- How a result is read. -/
def codec : Codec QueryResult :=
  .record "struct SparqlReply" (.cons (.required "results" ResultRows.codec) .nil)
    (fun (results, ()) => { results })
    (fun result => (result.results, ()))

end QueryResult

namespace Graph

/-- Steps of a call on the store. -/
abbrev Steps (α : Type) : Type := ExceptT Error (Dialogue Remote.wire) α

/-- A conversation with the server as a step of a call. -/
def onServer (session : Remote.Session α) : Steps α :=
  ExceptT.adapt Error.remote session

/-- A result that needs no request, as a step of a call. -/
def ofExcept (result : Except Error α) : Steps α :=
  ExceptT.mk (.done result)

/-- The name of the database for the records of a broker. -/
def databaseName (brokerId : String) : String :=
  "metadata" ++ brokerId

/-- Attach to the database of a broker, which is created if its size cannot be had. -/
def connect (client : Remote.Client) (brokerId : String) : Remote.Session Graph := do
  let database := databaseName brokerId
  try
    let _ ← client.databaseSize database
  catch _ =>
    client.perform (.createDatabase database)
  return { client, database }

/-! ## Names and texts -/

/-- A character that needs no escaping anywhere. -/
def isKeyChar (c : Char) : Bool :=
  c.isAlphanum || c == '-' || c == '_'

/-- Identifiers under which records can be kept. -/
def isSafeKey (key : String) : Bool :=
  !key.isEmpty && key.toList.all isKeyChar

/-- Refuse an identifier that would need escaping. -/
def requireSafe (key : String) : Steps Unit :=
  if isSafeKey key then pure () else throw (.invalidKey key)

/-- The subject of an instance. -/
def instanceNode (id : String) : Node :=
  .resource ("instance/" ++ id)

/-- The subject of a binding. -/
def bindingNode (id bindingId : String) : Node :=
  .resource ("binding/" ++ id ++ "/" ++ bindingId)

/-- The variable for stored texts. -/
def dataVariable : String := "data"

/-- The triples of an instance. -/
def instanceBlock (id data : String) : Block :=
  ⟨instanceNode id,
    [(.word "GUID", .text id), (.word "isa", .word "instance"), (.word "datais", .text data)]⟩

/-- The triples of a binding. -/
def bindingBlock (id bindingId data : String) : Block :=
  ⟨bindingNode id bindingId,
    [(.word "GUID", .text bindingId), (.word "isa", .word "binding"),
     (.word "boundto", instanceNode id), (.word "datais", .text data)]⟩

/-- The stored text of an instance. -/
def instanceQuery (id : String) : Query :=
  ⟨dataVariable,
    ⟨instanceNode id,
      [(.word "isa", .word "instance"), (.word "datais", .var dataVariable)]⟩⟩

/-- The stored text of a binding. -/
def bindingQuery (id bindingId : String) : Query :=
  ⟨dataVariable,
    ⟨bindingNode id bindingId,
      [(.word "isa", .word "binding"), (.word "boundto", instanceNode id),
       (.word "datais", .var dataVariable)]⟩⟩

/-- The stored texts of all bindings of an instance. -/
def allBindingsQuery (id : String) : Query :=
  ⟨dataVariable,
    ⟨.var "binding",
      [(.word "isa", .word "binding"), (.word "boundto", instanceNode id),
       (.word "datais", .var dataVariable)]⟩⟩

/-- The triples of whatever is bound to an instance, and then those of the instance. -/
def instanceDeletion (id : String) : Update :=
  ⟨[⟨.var "binding", [(.word "boundto", instanceNode id), (.var "p", .var "o")]⟩,
    ⟨instanceNode id, [(.var "p", .var "o")]⟩]⟩

/-- The triples of a binding. -/
def bindingDeletion (id bindingId : String) : Update :=
  ⟨[⟨bindingNode id bindingId, [(.var "p", .var "o")]⟩]⟩

/-! ## Calls -/

/-- The values of a variable in the rows of a result, all of which must have it. -/
def column (name : String) (result : QueryResult) : Except Remote.Failure (List String) :=
  result.results.rows.mapM fun row =>
    match row.lookup name with
    | some term => .ok term.value
    | none => .error (.defective (.missingColumn name))

/-- Read the values of a variable from the text of a result. -/
def readColumn (name body : String) : Except Remote.Failure (List String) :=
  match QueryResult.codec.read.jsonText body with
  | .ok result => column name result
  | .error error => .error (.malformed error)

/-- The stored texts that a query finds. -/
def select (graph : Graph) (query : Query) : Steps (List String) :=
  onServer do
    let body ← graph.client.query graph.database query.render
    Remote.Session.ofExcept (readColumn query.wanted body)

/-- The stored text of an instance. -/
def instanceData? (graph : Graph) (id : String) : Steps (Option String) := do
  let found ← graph.select (instanceQuery id)
  return found.head?

/-- The stored text of a binding. -/
def bindingData? (graph : Graph) (id bindingId : String) : Steps (Option String) := do
  let found ← graph.select (bindingQuery id bindingId)
  return found.head?

/-- Add the triples of a block. -/
def add (graph : Graph) (block : Block) : Steps Unit :=
  onServer (graph.client.addData graph.database "text/turtle" block.turtle)

/-- Carry out an update. -/
def delete (graph : Graph) (update : Update) : Steps Unit :=
  onServer (graph.client.update graph.database update.render)

/-- Read the stored text of a record. -/
def read (codec : Codec α) (data : String) : Except Error α :=
  (readStored codec data).mapError .corrupt

/-- The steps of a call. -/
def perform (graph : Graph) : (call : Call) → Steps call.Reply
  | .addInstance id record => do
      requireSafe id
      match ← graph.instanceData? id with
      | some _ => throw (.duplicateInstance id)
      | none => graph.add (instanceBlock id (storedText ServiceInstance.codec record))
  | .getInstance id => do
      requireSafe id
      match ← graph.instanceData? id with
      | some data => ofExcept (read ServiceInstance.codec data)
      | none => throw (.instanceNotFound id)
  | .deleteInstance id => do
      requireSafe id
      match ← graph.instanceData? id with
      | some _ => graph.delete (instanceDeletion id)
      | none => throw (.instanceNotFound id)
  | .addBinding id bindingId record => do
      requireSafe id
      requireSafe bindingId
      match ← graph.instanceData? id with
      | none => throw (.parentMissing id)
      | some _ =>
          match ← graph.bindingData? id bindingId with
          | some _ => throw (.duplicateBinding id bindingId)
          | none =>
              graph.add (bindingBlock id bindingId (storedText ServiceBinding.codec record))
  | .getBinding id bindingId => do
      requireSafe id
      requireSafe bindingId
      match ← graph.bindingData? id bindingId with
      | some data => ofExcept (read ServiceBinding.codec data)
      | none => throw (.bindingNotFound id bindingId)
  | .getAllBindings id => do
      requireSafe id
      match ← graph.instanceData? id with
      | none => throw (.parentMissing id)
      | some _ =>
          let found ← graph.select (allBindingsQuery id)
          ofExcept (found.mapM (read ServiceBinding.codec))
  | .deleteBinding id bindingId => do
      requireSafe id
      requireSafe bindingId
      match ← graph.bindingData? id bindingId with
      | some _ => graph.delete (bindingDeletion id bindingId)
      | none => throw (.bindingNotFound id bindingId)

/-- Answer a call. -/
def answer (graph : Graph) (call : Call) : Dialogue Remote.wire call.Outcome :=
  (graph.perform call).run

end Graph

end GraphBroker.Store
