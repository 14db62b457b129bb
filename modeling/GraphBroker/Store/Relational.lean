import GraphBroker.Store.Basic

namespace GraphBroker.Store

/-!
# A store in two tables

Instances and bindings are rows of two tables.  A row has a number that is never
given twice and holds its record as stored text; the row of a binding names the
row of its instance.  The tables keep three constraints: no two instances have
one identifier, no two bindings of an instance have one identifier, and a
binding's instance exists, so that deleting an instance deletes its bindings.
Reading the rows of a table gives them in the order of their numbers.
-/

/-- The row of an instance. -/
structure InstanceRow where
  number : Nat
  guid : String
  data : String
  deriving Repr, DecidableEq

/-- The row of a binding. -/
structure BindingRow where
  number : Nat
  /-- The number of the instance's row. -/
  owner : Nat
  guid : String
  data : String
  deriving Repr, DecidableEq

/-- The two tables, and the numbers of their next rows. -/
structure Tables where
  instances : List InstanceRow
  bindings : List BindingRow
  nextInstance : Nat
  nextBinding : Nat
  deriving Repr, DecidableEq

/-- A relational store, which has no tables until they are created. -/
structure Relational where
  tables : Option Tables
  deriving Repr, DecidableEq

namespace Tables

/-- Tables without rows. -/
def empty : Tables :=
  ⟨[], [], 1, 1⟩

/-- The row of an instance with an identifier. -/
def instanceRow? (tables : Tables) (id : String) : Option InstanceRow :=
  tables.instances.find? fun row => row.guid == id

/-- The bindings of an instance's row. -/
def bindingsOf (tables : Tables) (owner : Nat) : List BindingRow :=
  tables.bindings.filter fun row => row.owner == owner

/-- The row of a binding of an instance. -/
def bindingRow? (tables : Tables) (id bindingId : String) : Option BindingRow := do
  let parent ← tables.instanceRow? id
  (tables.bindingsOf parent.number).find? fun row => row.guid == bindingId

/-- Insert an instance's row, unless its identifier is taken. -/
def insertInstance? (tables : Tables) (guid data : String) : Option Tables :=
  match tables.instanceRow? guid with
  | some _ => none
  | none =>
      some { tables with
        instances := tables.instances ++ [⟨tables.nextInstance, guid, data⟩]
        nextInstance := tables.nextInstance + 1 }

/-- Delete an instance's row and the rows of its bindings. -/
def deleteInstance (tables : Tables) (number : Nat) : Tables :=
  { tables with
    instances := tables.instances.filter fun row => row.number != number
    bindings := tables.bindings.filter fun row => row.owner != number }

/-- Insert a binding's row, unless its identifier is taken beneath its instance. -/
def insertBinding? (tables : Tables) (owner : Nat) (guid data : String) : Option Tables :=
  match (tables.bindingsOf owner).find? fun row => row.guid == guid with
  | some _ => none
  | none =>
      some { tables with
        bindings := tables.bindings ++ [⟨tables.nextBinding, owner, guid, data⟩]
        nextBinding := tables.nextBinding + 1 }

/-- Delete a binding's row. -/
def deleteBinding (tables : Tables) (number : Nat) : Tables :=
  { tables with bindings := tables.bindings.filter fun row => row.number != number }

/-- Insert an instance's row in the stead of one with its identifier, whose bindings go with it. -/
def replaceInstance (tables : Tables) (guid data : String) : Tables :=
  let cleared :=
    match tables.instanceRow? guid with
    | some row => tables.deleteInstance row.number
    | none => tables
  { cleared with
    instances := cleared.instances ++ [⟨cleared.nextInstance, guid, data⟩]
    nextInstance := cleared.nextInstance + 1 }

/-- Read the stored text of a record. -/
def record (codec : Json.Codec α) (data : String) : Except Error α :=
  (readStored codec data).mapError .corrupt

/-- Answer a call. -/
def answer : (call : Call) → Tables → call.Outcome × Tables
  | .addInstance id record, tables =>
      match tables.insertInstance? id (storedText ServiceInstance.codec record) with
      | some tables => (.ok (), tables)
      | none => (.error (.duplicateInstance id), tables)
  | .getInstance id, tables =>
      match tables.instanceRow? id with
      | some row => (Tables.record ServiceInstance.codec row.data, tables)
      | none => (.error (.instanceNotFound id), tables)
  | .deleteInstance id, tables =>
      match tables.instanceRow? id with
      | some row => (.ok (), tables.deleteInstance row.number)
      | none => (.error (.instanceNotFound id), tables)
  | .addBinding id bindingId record, tables =>
      match tables.instanceRow? id with
      | none => (.error (.parentMissing id), tables)
      | some parent =>
          match tables.insertBinding? parent.number bindingId (storedText ServiceBinding.codec record) with
          | some tables => (.ok (), tables)
          | none => (.error (.duplicateBinding id bindingId), tables)
  | .getBinding id bindingId, tables =>
      match tables.bindingRow? id bindingId with
      | some row => (Tables.record ServiceBinding.codec row.data, tables)
      | none => (.error (.bindingNotFound id bindingId), tables)
  | .getAllBindings id, tables =>
      match tables.instanceRow? id with
      | none => (.error (.parentMissing id), tables)
      | some parent =>
          let rows := tables.bindingsOf parent.number
          (rows.mapM fun row => Tables.record ServiceBinding.codec row.data, tables)
  | .deleteBinding id bindingId, tables =>
      match tables.bindingRow? id bindingId with
      | some row => (.ok (), tables.deleteBinding row.number)
      | none => (.error (.bindingNotFound id bindingId), tables)

end Tables

namespace Relational

/-- A new store, without its tables. -/
def empty : Relational :=
  ⟨none⟩

/-- The statements that create the tables and their index. -/
def statementCount : Nat := 3

/-- Create the tables, unless they are there: how many statements were carried out. -/
def migrate (store : Relational) : Nat × Relational :=
  (statementCount, ⟨some (store.tables.getD .empty)⟩)

/-- The table of which a call first notices that it does not exist. -/
def firstTable : Operation → String
  | .getBinding | .deleteBinding => "bindings"
  | _ => "service_instance"

/-- Answer a call. -/
def answer (call : Call) (store : Relational) : call.Outcome × Relational :=
  match store.tables with
  | none => (.error (.database (.noSuchTable (firstTable call.operation))), store)
  | some tables =>
      let (outcome, tables) := tables.answer call
      (outcome, ⟨some tables⟩)

/-- Put an instance's row in place as it is given. -/
def putInstanceRow (store : Relational) (guid data : String) : Except Error Relational :=
  match store.tables with
  | none => .error (.database (.noSuchTable "service_instance"))
  | some tables => .ok ⟨some (tables.replaceInstance guid data)⟩

/-- Add a binding's row as it is given, if the row of its instance exists. -/
def putBindingRow (store : Relational) (guid bindingGuid data : String) : Except Error Relational :=
  match store.tables with
  | none => .error (.database (.noSuchTable "bindings"))
  | some tables =>
      match tables.instanceRow? guid with
      | none => .ok store
      | some parent =>
          .ok ⟨some ((tables.insertBinding? parent.number bindingGuid data).getD tables)⟩

/-- How many rows the two tables have. -/
def counts (store : Relational) : Except Error (Nat × Nat) :=
  match store.tables with
  | none => .error (.database (.noSuchTable "service_instance"))
  | some tables => .ok (tables.instances.length, tables.bindings.length)

end Relational

end GraphBroker.Store
