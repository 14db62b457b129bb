import GraphBroker.Config.Settings
import GraphBroker.Host.Failure

namespace GraphBroker.Config

/-!
# The sources of the configuration

The settings come from the document.  Variables of the environment that are set
and not blank go before it, and a port on the command line goes before both.
Everything is read before anything is judged, and the first problem in the order
document, variables, identifier, credentials is the one that is reported.
-/

/-- The variables of the environment. -/
abbrev Environment : Type := String → Option String

/-- Why there is no configuration. -/
inductive Error where
  | unreadable (path : String) (error : Host.FileError)
  /-- The file is no text. -/
  | undecodable (path : String)
  | malformed (path : String) (error : Json.ReadError)
  | wrongPort (value : String) (error : Text.NaturalError)
  | blankBrokerId
  | missingCredentials

namespace Error

/-- The words for an error, and then those for what caused it. -/
def chain : Error → List String
  | .unreadable path error => ["reading configuration " ++ path, error.message]
  | .undecodable path =>
      ["reading configuration " ++ path, "stream did not contain valid UTF-8"]
  | .malformed path error => ["parsing configuration " ++ path, error.message]
  | .wrongPort value error => ["parsing PORT value \x60" ++ value ++ "\x60", error.message]
  | .blankBrokerId => ["broker_id must not be empty"]
  | .missingCredentials => ["broker_username and broker_password must be set"]

end Error

namespace Environment

/-- The variable for the port. -/
def port : String := "PORT"

/-- The variable for the name that the platform has to present. -/
def username : String := "SECURITY_USER_NAME"

/-- The variable for the password that the platform has to present. -/
def password : String := "SECURITY_USER_PASSWORD"

/-- The variables that matter. -/
def names : List String :=
  [port, username, password]

/-- An environment from what its variables are set to. -/
def ofSettings (settings : List (String × Option String)) : Environment := fun name =>
  (settings.lookup name).join

/-- The value of a variable that is set and not blank. -/
def value? (environment : Environment) (name : String) : Option String :=
  (environment name).filter fun value => ¬ Text.IsBlank value

end Environment

namespace Settings

/-- The settings in a document. -/
def ofDocument (path : String) (contents : Except Host.FileError (List UInt8)) :
    Except Error Settings :=
  match contents with
  | .error error => .error (.unreadable path error)
  | .ok bytes =>
      match Text.Utf8.decode? bytes with
      | none => .error (.undecodable path)
      | some text => (codec.read.jsonText text).mapError (.malformed path)

/-- The port that the environment asks for. -/
def portVariable (environment : Environment) : Except Error (Option UInt16) :=
  match environment.value? Environment.port with
  | none => .ok none
  | some value =>
      match Port.parse value with
      | .ok port => .ok (some port)
      | .error error => .error (.wrongPort value error)

/-- Let the environment go before the document. -/
def withEnvironment (settings : Settings) (environment : Environment) : Except Error Settings := do
  let port ← portVariable environment
  return { settings with
    port := port.getD settings.port
    brokerUsername := (environment.value? Environment.username).getD settings.brokerUsername
    brokerPassword := (environment.value? Environment.password).getD settings.brokerPassword }

/-- Let a port on the command line go before every other. -/
def withPort (settings : Settings) (port : Option UInt16) : Settings :=
  { settings with port := port.getD settings.port }

/-- Refuse settings without an identifier or without credentials. -/
def validate (settings : Settings) : Except Error Settings :=
  if Text.IsBlank settings.brokerId then .error .blankBrokerId
  else if settings.brokerUsername.isEmpty ∨ settings.brokerPassword.isEmpty then
    .error .missingCredentials
  else .ok settings

/-- The settings from all sources. -/
def resolve
    (path : String)
    (contents : Except Host.FileError (List UInt8))
    (environment : Environment)
    (port : Option UInt16) :
    Except Error Settings := do
  let settings ← ofDocument path contents
  let settings ← settings.withEnvironment environment
  (settings.withPort port).validate

end Settings

end GraphBroker.Config
