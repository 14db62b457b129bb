import GraphBroker.Config.Arguments
import GraphBroker.Deployment
import GraphBroker.Startup.Database

namespace GraphBroker.Startup

/-!
# Starting a broker

The settings are resolved first, then the log is opened.  With `--migrate`
nothing follows but the creation of the tables.  Otherwise the plans are read,
the store is opened, and the broker listens; each of these may end the start.
-/

/-- A broker that is ready to serve. -/
structure Service where
  broker : Broker
  surroundings : Surroundings
  /-- Where the records of a relational store are saved. -/
  database : Option Database
  log : Log

/-- What a start came to. -/
inductive Outcome where
  /-- The tables were created. -/
  | migrated
  | serving (service : Service)

/-- What a command line came to. -/
inductive Ending where
  /-- It asked for a text. -/
  | told (text : String)
  | misused (error : Config.UsageError)
  | migrated
  | failed (failure : Failure)
  | serving (service : Service)

/-- A store that has been opened, and where it is saved. -/
abbrev OpenStore : Type := Store.Backend × Option Database

/-! ## The steps of a start -/

/-- A result that needs nothing from the machine. -/
def given (result : Except Failure α) : Steps α :=
  ExceptT.mk (.done result)

/-- Log a line. -/
def say (log : Log) (level : Config.LogLevel) (text : String) : Steps Unit :=
  ExceptT.lift (log.say level text)

/-- Create the tables and nothing else. -/
def migrate (log : Log) (settings : Config.Settings) : Steps Unit := do
  if settings.storage.kind ≠ .relational then
    throw (.noTables settings.storage.kind)
  let database ← Database.ofSettings log settings
  let (count, _) ← ExceptT.adapt Failure.notMigrated database.migrate
  say log .info ("Database migration complete (" ++ toString count ++ " statements).")

/-- The plans that the settings offer. -/
def readPlans (log : Log) (settings : Config.Settings) : Steps Registry := do
  let plans ← given ((Registry.ofSettings settings.plans).mapError Failure.plans)
  if Keyed.size plans = 0 then
    say log .warn "No plans are configured; the catalog will advertise none"
  else
    say log .info ("Loaded " ++ toString (Keyed.size plans) ++ " plan(s)")
  return plans

/-- The store that the settings ask for. -/
def openStore (log : Log) (settings : Config.Settings) : Steps OpenStore := do
  match settings.storage.kind with
  | .memory =>
      say log .warn "Using in-memory storage; records are lost on restart"
      return (.memory .empty, none)
  | .relational =>
      let database ← Database.ofSettings log settings
      let (_, store) ← ExceptT.adapt Failure.notPrepared database.migrate
      return (.relational store, some database)
  | .graph =>
      let parameters := settings.storage.parameters
      let server ← given <|
        ((Plan.serverCodec "struct StardogStoreParameters").read.json parameters).mapError
          Failure.graphSetting
      let session := Store.Graph.connect (Remote.Client.ofServer server) settings.brokerId
      let graph ← ExceptT.adapt Failure.graph (ExceptT.mk (Host.overWire session.run))
      say log .info ("Persisting broker records in " ++ graph.database)
      return (.graph graph, none)

/-- The host to listen at where every address of the machine is denied. -/
def localHost : String := "127.0.0.1"

/-- Listen at the address of the settings, or locally where every address is denied. -/
def listen (log : Log) (settings : Config.Settings) : Steps Unit := do
  match ← ExceptT.lift (Host.listen settings.host settings.port) with
  | .ok () => say log .info ("Server listening on http://" ++ settings.address)
  | .error .denied =>
      if settings.host = "0.0.0.0" ∨ settings.host = "::" then
        let fallback := { settings with host := localHost }
        say log .warn <|
          "Permission denied binding to " ++ settings.address ++ " ("
            ++ Host.ListenError.denied.message ++ "). Falling back to " ++ fallback.address
        ExceptT.adapt Failure.notListening (ExceptT.mk (Host.listen localHost settings.port))
        say log .info ("Server listening on http://" ++ fallback.address)
      else
        throw (.notListening .denied)
  | .error error => throw (.notListening error)

/-! ## The whole start -/

/-- Start a broker from its command line, the environment, and the filter for its log. -/
def start
    (arguments : Config.Arguments)
    (environment : Config.Environment)
    (filter : Option String) :
    Steps Outcome := do
  let contents ← ExceptT.lift (Host.read arguments.config)
  let settings ← given <|
    (Config.Settings.resolve arguments.config contents environment arguments.port).mapError
      Failure.config
  let log ← ExceptT.lift (Log.start settings filter)
  say log .info ("Starting stardog-service-broker with config: " ++ settings.describe)
  if arguments.migrate then
    migrate log settings
    return .migrated
  else
    let plans ← readPlans log settings
    let (store, database) ← openStore log settings
    listen log settings
    return .serving
      { broker :=
          { id := settings.brokerId
            plans
            login := ⟨settings.brokerUsername, settings.brokerPassword⟩ }
        surroundings := { store, declining := [], servers := .live }
        database
        log }

/-! ## The command line -/

namespace Ending

/-- How the program is called. -/
def usageText : String := "Usage: stardog-service-broker [OPTIONS] [CONFIG]\n"

/-- The name of the program and its version. -/
def versionText : String := "stardog-service-broker 0.1.0\n"

/-- What the program is for and how it is called. -/
def helpText : String :=
  "Open Service Broker for Stardog\n\n"
    ++ usageText ++ "\n"
    ++ "Arguments:\n"
    ++ "  [CONFIG]  Path to the JSON configuration document [default: data/conf.json]\n\n"
    ++ "Options:\n"
    ++ "      --port <PORT>  Port to listen on (overrides PORT and the config file)\n"
    ++ "      --migrate      Create the SQL storage schema and exit\n"
    ++ "  -h, --help         Print help\n"
    ++ "  -V, --version      Print version\n"

/-- What a refused command line came to. -/
def ofDismissal : Config.Dismissal → Ending
  | .help => .told helpText
  | .version => .told versionText
  | .misused error => .misused error

/-- What a start came to, as the end of a command line. -/
def ofStart : Except Failure Outcome → Ending
  | .ok .migrated => .migrated
  | .ok (.serving service) => .serving service
  | .error failure => .failed failure

/-- The code with which the program ends. -/
def exitCode : Ending → UInt32
  | .told _ | .migrated | .serving _ => 0
  | .failed _ => 1
  | .misused _ => 2

/-- What the program writes to its output. -/
def output : Ending → String
  | .told text => text
  | _ => ""

/-- What the program has to complain about at its end. -/
def complaint : Ending → String
  | .misused error => "error: " ++ error.message ++ "\n\n" ++ usageText
  | .failed failure => failure.report ++ "\n"
  | _ => ""

end Ending

/-- Follow a command line. -/
def follow
    (words : List String)
    (environment : Config.Environment)
    (filter : Option String) :
    Host.Steps Ending :=
  match Config.Arguments.parse words with
  | .error dismissal => .done (.ofDismissal dismissal)
  | .ok arguments => do
      let outcome ← (start arguments environment filter).run
      return .ofStart outcome

end GraphBroker.Startup
