import GraphBroker.Json.Reader
import GraphBroker.Text.Blank

namespace GraphBroker.Config

/-!
# Log levels

A level is named in any letter case, with blank characters around it.  Letter
case is that of ASCII, so that a letter outside of it makes a name unknown.
-/

/-- How much is logged, from the most to the least. -/
inductive LogLevel where
  | debug
  | info
  | warn
  | error
  deriving Repr, DecidableEq

/-- A name that no level has, in upper case. -/
structure UnknownLevel where
  name : String
  deriving Repr, DecidableEq

/-- The words for an unknown level. -/
def UnknownLevel.message (unknown : UnknownLevel) : String :=
  "invalid log level \x60" ++ unknown.name ++ "\x60"

namespace LogLevel

/-- The name of a level in a log filter. -/
def filterName : LogLevel → String
  | .debug => "debug"
  | .info => "info"
  | .warn => "warn"
  | .error => "error"

/-- The name of a level in the description of a configuration. -/
def title : LogLevel → String
  | .debug => "Debug"
  | .info => "Info"
  | .warn => "Warn"
  | .error => "Error"

/-- The level with a name. -/
def parse (text : String) : Except UnknownLevel LogLevel :=
  let name := (Text.trim text).map Char.toUpper
  if name = "DEBUG" then .ok .debug
  else if name = "INFO" then .ok .info
  else if name = "WARN" then .ok .warn
  else if name = "ERROR" then .ok .error
  else .error ⟨name⟩

/-- How a level is read and written. -/
def codec : Json.Codec LogLevel where
  write level := .text level.filterName
  read document := do
    let text ← Json.Reader.text document
    match parse text with
    | .ok level => .ok level
    | .error unknown => .error (.here (.refused unknown.message))

end LogLevel

end GraphBroker.Config
