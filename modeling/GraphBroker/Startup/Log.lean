import GraphBroker.Config.LogFilter
import GraphBroker.Config.Settings
import GraphBroker.Host.Basic

namespace GraphBroker.Startup

/-!
# The log

Lines for the log go to the configured file if it can be opened, and are shown
otherwise.  A filter that is given from outside goes before the configured level.
-/

/-- Where lines for the log go, and which of them. -/
structure Log where
  file : Option String
  filter : Config.LogFilter
  deriving Repr, DecidableEq

namespace Log

/-- The name of the part of the program that starts the broker. -/
def part : String := "stardog_service_broker"

/-- The filter of a log. -/
def filterFor (level : Config.LogLevel) (filter : Option String) : Config.LogFilter :=
  (filter.bind Config.LogFilter.parse).getD (.ofLevel level)

/-- Open the log. -/
def start (settings : Config.Settings) (filter : Option String) : Host.Steps Log := do
  let filter := filterFor settings.logLevel filter
  match settings.logFile.filter fun path => ¬ Text.IsBlank path with
  | none => return ⟨none, filter⟩
  | some path =>
      match ← Host.append path "" with
      | .ok () => return ⟨some path, filter⟩
      | .error error =>
          Host.complain <|
            "Failed to open the logging file " ++ path ++ ". Logging to stderr: " ++ error.message
          return ⟨none, filter⟩

/-- The line for a note in a file. -/
def line (note : Host.Note) : String :=
  String.ofList (note.level.filterName.toList.map Char.toUpper) ++ " " ++ part ++ ": "
    ++ note.text ++ "\n"

/-- Log a line, if its level is logged. -/
def say (log : Log) (level : Config.LogLevel) (text : String) : Host.Steps Unit := do
  if log.filter.admits part level then
    match log.file with
    | some path =>
        let _ ← Host.append path (line ⟨level, text⟩)
    | none => Host.note ⟨level, text⟩

end Log

end GraphBroker.Startup
