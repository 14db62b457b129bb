import GraphBroker.Record.Stored
import GraphBroker.Remote.Failure

namespace GraphBroker.Store

/-!
# The store of records

A store keeps instance records by their identifier and, beneath each instance,
binding records by theirs.  Deleting an instance deletes its bindings.  There
are seven calls; every store answers each of them with a value of the call's
reply type or with an error.
-/

/-- A call on a store. -/
inductive Call where
  /-- Keep an instance under an identifier that is not yet taken. -/
  | addInstance (id : String) (record : ServiceInstance)
  | getInstance (id : String)
  /-- Remove an instance and all of its bindings. -/
  | deleteInstance (id : String)
  /-- Keep a binding under an identifier that is not yet taken beneath its instance. -/
  | addBinding (id : String) (bindingId : String) (record : ServiceBinding)
  | getBinding (id : String) (bindingId : String)
  /-- Every binding of an instance. -/
  | getAllBindings (id : String)
  | deleteBinding (id : String) (bindingId : String)

/-- The kinds of calls. -/
inductive Operation where
  | addInstance
  | getInstance
  | deleteInstance
  | addBinding
  | getBinding
  | getAllBindings
  | deleteBinding
  deriving Repr, DecidableEq

/-- What can be wrong with a database file or its tables. -/
inductive DatabaseError where
  /-- The tables have not been created. -/
  | noSuchTable (name : String)
  /-- The file cannot be opened. -/
  | cannotOpen
  /-- The file is of another kind. -/
  | notADatabase
  /-- The address of the database has a parameter that is not known. -/
  | unknownParameter (name : String)
  /-- The address of the database gives a parameter a value that is not known. -/
  | unknownValue (name : String) (value : String)
  /-- The name of the file is no text. -/
  | undecodablePath (flaw : Text.Utf8.Flaw)
  /-- The name of the file holds a character that no name may hold. -/
  | invalidName
  /-- The way to reach files is not known. -/
  | unknownDriver (name : String)
  /-- The address of the file names another machine. -/
  | invalidAuthority (name : String)
  /-- The database was opened for reading only. -/
  | readOnly
  deriving Repr, DecidableEq

/-- Why a call on a store failed. -/
inductive Error where
  | instanceNotFound (id : String)
  | bindingNotFound (id : String) (bindingId : String)
  | duplicateInstance (id : String)
  | duplicateBinding (id : String) (bindingId : String)
  | parentMissing (id : String)
  | invalidKey (key : String)
  | corrupt (record : CorruptRecord)
  | database (error : DatabaseError)
  | remote (failure : Remote.Failure)

namespace Call

/-- What answers a call that succeeds. -/
def Reply : Call → Type
  | .getInstance _ => ServiceInstance
  | .getBinding _ _ => ServiceBinding
  | .getAllBindings _ => List ServiceBinding
  | .addInstance _ _ | .deleteInstance _ | .addBinding _ _ _ | .deleteBinding _ _ => Unit

/-- The kind of a call. -/
def operation : Call → Operation
  | .addInstance _ _ => .addInstance
  | .getInstance _ => .getInstance
  | .deleteInstance _ => .deleteInstance
  | .addBinding _ _ _ => .addBinding
  | .getBinding _ _ => .getBinding
  | .getAllBindings _ => .getAllBindings
  | .deleteBinding _ _ => .deleteBinding

/-- What comes back from a call. -/
abbrev Outcome (call : Call) : Type := Except Error call.Reply

end Call

namespace Operation

/-- The name of a call. -/
def name : Operation → String
  | .addInstance => "add_instance"
  | .getInstance => "get_instance"
  | .deleteInstance => "delete_instance"
  | .addBinding => "add_binding"
  | .getBinding => "get_binding"
  | .getAllBindings => "get_all_bindings"
  | .deleteBinding => "delete_binding"

/-- Every kind of call. -/
def all : List Operation :=
  [.addInstance, .getInstance, .deleteInstance, .addBinding, .getBinding, .getAllBindings,
   .deleteBinding]

/-- The kind of call with a name. -/
def ofName? (name : String) : Option Operation :=
  all.find? fun operation => operation.name == name

end Operation

namespace DatabaseError

/-- The words of the database itself. -/
def detail : DatabaseError → String
  | .noSuchTable name => "(code: 1) no such table: " ++ name
  | .cannotOpen => "(code: 14) unable to open database file"
  | .notADatabase => "(code: 26) file is not a database"
  | .unknownParameter name =>
      "unknown query parameter \x60" ++ name ++ "\x60 while parsing connection URL"
  | .unknownValue name value => "unknown value " ++ Text.quoted value ++ " for \x60" ++ name ++ "\x60"
  | .undecodablePath flaw => flaw.message
  | .invalidName => "filename passed to SQLite must not contain nul bytes"
  | .unknownDriver name => "(code: 1) no such vfs: " ++ name
  | .invalidAuthority name => "(code: 1) invalid uri authority: " ++ name
  | .readOnly => "(code: 8) attempt to write a readonly database"

/-- The words for a database error. -/
def message (error : DatabaseError) : String :=
  match error with
  | .noSuchTable _ | .cannotOpen | .notADatabase | .unknownDriver _ | .invalidAuthority _
  | .readOnly =>
      "error returned from database: " ++ error.detail
  | .unknownParameter _ | .unknownValue _ _ | .undecodablePath _ =>
      "error with configuration: " ++ error.detail
  | .invalidName => "error communicating with database: " ++ error.detail

end DatabaseError

namespace Error

/-- The words for a store error. -/
def message : Error → String
  | .instanceNotFound id => "service instance \x60" ++ id ++ "\x60 not found"
  | .bindingNotFound id bindingId =>
      "binding \x60" ++ bindingId ++ "\x60 of instance \x60" ++ id ++ "\x60 not found"
  | .duplicateInstance id => "service instance \x60" ++ id ++ "\x60 already exists"
  | .duplicateBinding id bindingId =>
      "binding \x60" ++ bindingId ++ "\x60 of instance \x60" ++ id ++ "\x60 already exists"
  | .parentMissing id => "parent instance \x60" ++ id ++ "\x60 does not exist"
  | .invalidKey key => "invalid key \x60" ++ key ++ "\x60"
  | .corrupt record => "stored record is corrupt: " ++ record.message
  | .database error => error.message
  | .remote failure => failure.message

/-- The record that was asked for is not there. -/
def isNotFound : Error → Bool
  | .instanceNotFound _ | .bindingNotFound _ _ => true
  | _ => false

end Error

end GraphBroker.Store
