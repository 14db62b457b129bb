namespace GraphBroker

/-!
# Administering a graph database server

What the broker may ask of a server: to create and delete databases and users,
and to let a user into a database or keep it out.
-/

/-- A name and a password. -/
structure Login where
  username : String
  password : String
  deriving Repr, DecidableEq, Inhabited

/-- A graph database server and the administrator who is let in there. -/
structure Server where
  url : String
  admin : Login
  deriving Repr, DecidableEq, Inhabited

/-- The operations of a server's administrator. -/
inductive AdminOperation where
  | createDatabase
  | deleteDatabase
  | userExists
  | newUser
  | deleteUser
  | grantAccess
  | revokeAccess
  deriving Repr, DecidableEq

/-- An operation with its arguments. -/
inductive AdminCall where
  | createDatabase (database : String)
  | deleteDatabase (database : String)
  | userExists (username : String)
  | newUser (username : String) (password : String)
  | deleteUser (username : String)
  | grantAccess (database : String) (username : String)
  | revokeAccess (database : String) (username : String)
  deriving Repr, DecidableEq

namespace AdminOperation

/-- The name of an operation in messages. -/
def name : AdminOperation → String
  | .createDatabase => "CreateDatabase"
  | .deleteDatabase => "DeleteDatabase"
  | .userExists => "UserExists"
  | .newUser => "NewUser"
  | .deleteUser => "DeleteUser"
  | .grantAccess => "GrantUserAccess"
  | .revokeAccess => "RevokeUserAccess"

/-- Every operation. -/
def all : List AdminOperation :=
  [.createDatabase, .deleteDatabase, .userExists, .newUser, .deleteUser, .grantAccess,
   .revokeAccess]

/-- The operation with a name. -/
def ofName? (name : String) : Option AdminOperation :=
  all.find? fun operation => operation.name == name

end AdminOperation

namespace AdminCall

/-- What answers a call that succeeds. -/
def Reply : AdminCall → Type
  | .userExists _ => Bool
  | _ => Unit

/-- The operation of a call. -/
def operation : AdminCall → AdminOperation
  | .createDatabase _ => .createDatabase
  | .deleteDatabase _ => .deleteDatabase
  | .userExists _ => .userExists
  | .newUser _ _ => .newUser
  | .deleteUser _ => .deleteUser
  | .grantAccess _ _ => .grantAccess
  | .revokeAccess _ _ => .revokeAccess

/-- The database that a call is about. -/
def database? : AdminCall → Option String
  | .createDatabase database | .deleteDatabase database => some database
  | .grantAccess database _ | .revokeAccess database _ => some database
  | .userExists _ | .newUser _ _ | .deleteUser _ => none

/-- The user that a call is about. -/
def username? : AdminCall → Option String
  | .userExists username | .newUser username _ | .deleteUser username => some username
  | .grantAccess _ username | .revokeAccess _ username => some username
  | .createDatabase _ | .deleteDatabase _ => none

/-- The password that a call sets. -/
def password? : AdminCall → Option String
  | .newUser _ password => some password
  | _ => none

end AdminCall

end GraphBroker
