import GraphBroker.Config.LogLevel
import GraphBroker.Json.Shape
import GraphBroker.Plan.Registry
import GraphBroker.Text.Natural

namespace GraphBroker.Config

open Json

/-!
# Settings

What the configuration document says: where to listen, who may call, which plans
to offer and where to keep the records.
-/

/-- Where records are kept. -/
inductive StorageKind where
  | memory
  | graph
  | relational
  deriving Repr, DecidableEq

/-- Where records are kept, and what that store needs to know. -/
structure StorageSetting where
  kind : StorageKind
  parameters : Json

/-- The settings of a broker. -/
structure Settings where
  port : UInt16
  host : String
  brokerId : String
  brokerUsername : String
  brokerPassword : String
  logLevel : LogLevel
  logFile : Option String
  plans : List PlanSetting
  storage : StorageSetting

/-! ## Ports -/

namespace Port

/-- The port that is written as a decimal number. -/
def parse (text : String) : Except Text.NaturalError UInt16 :=
  (Text.readNatural 65535 (Text.trim text)).map UInt16.ofNat

/-- The port unless the document says otherwise. -/
def standard : UInt16 := 8080

/-- Read a port, which is a number or a text.  Anything else is read to its end before it is refused. -/
def read : Reader UInt16
  | .number (.natural value) =>
      if value.toNat < 65536 then .ok value.toUInt16 else .error (.here (.noAlternative "Port"))
  | .text written =>
      match parse written with
      | .ok port => .ok port
      | .error _ => .error (.here (.refused ("invalid port \x60" ++ written ++ "\x60")))
  | other => if other.sound then .error (.here (.noAlternative "Port")) else .error .malformed

/-- How a port is read and written. -/
def codec : Codec UInt16 :=
  ⟨fun port => .number (.natural port.toUInt64), read⟩

end Port

/-! ## Storage -/

namespace StorageKind

/-- Every kind of storage. -/
def all : List StorageKind :=
  [.memory, .graph, .relational]

/-- The name of a kind in the document. -/
def name : StorageKind → String
  | .memory => "memory"
  | .graph => "stardog"
  | .relational => "sql"

/-- The name of a kind in messages. -/
def title : StorageKind → String
  | .memory => "Memory"
  | .graph => "Stardog"
  | .relational => "Sql"

/-- The kind with a name. -/
def ofName (name : String) : Except ReadError StorageKind :=
  match all.find? fun kind => kind.name == name with
  | some kind => .ok kind
  | none => .error (.here (.unknownVariant name (all.map StorageKind.name)))

/-- Read a kind from its name, or from a table whose one member has that name and is `null`. -/
def read : Reader StorageKind
  | .text name => ofName name
  | .table ((some name, value) :: others) closed => do
      let kind ← ofName name
      match value with
      | .null => if others.isEmpty && closed then .ok kind else .error .malformed
      | other => Reader.expected "unit" other
  | .table ((none, found) :: _) _ => Reader.expected "variant identifier" found
  | _ => .error .malformed

/-- How a kind is read and written. -/
def codec : Codec StorageKind :=
  ⟨fun kind => .text kind.name, read⟩

end StorageKind

/-- How the storage setting is read and written. -/
def StorageSetting.codec : Codec StorageSetting :=
  .record "struct StorageConfig"
    (.cons (.required "type" StorageKind.codec) <|
     .cons (.defaulted "parameters" .value .null) .nil)
    (fun (kind, parameters, ()) => { kind, parameters })
    (fun setting => (setting.kind, setting.parameters, ()))

/-- How an entry for a plan is read and written. -/
def planSettingCodec : Codec PlanSetting :=
  .record "struct PlanConfig"
    (.cons (.required "name" .text) <|
     .cons (.required "id" .text) <|
     .cons (.defaulted "parameters" .value .null) .nil)
    (fun (name, id, parameters, ()) => { name, id, parameters })
    (fun setting => (setting.name, setting.id, setting.parameters, ()))

/-! ## The whole document -/

namespace Settings

/-- How the document is read and written. -/
def codec : Codec Settings :=
  .record "struct ServerConfig"
    (.cons (.defaulted "port" Port.codec Port.standard) <|
     .cons (.defaulted "host" .text "0.0.0.0") <|
     .cons (.required "broker_id" .text) <|
     .cons (.defaulted "broker_username" .text "") <|
     .cons (.defaulted "broker_password" .text "") <|
     .cons (.defaulted "log_level" LogLevel.codec .info) <|
     .cons (.optional "log_file" .text) <|
     .cons (.defaulted "plans" (.list planSettingCodec) []) <|
     .cons (.required "storage" StorageSetting.codec) .nil)
    (fun (port, host, brokerId, brokerUsername, brokerPassword, logLevel, logFile, plans,
          storage, ()) =>
      { port, host, brokerId, brokerUsername, brokerPassword, logLevel, logFile, plans, storage })
    (fun settings =>
      (settings.port, settings.host, settings.brokerId, settings.brokerUsername,
       settings.brokerPassword, settings.logLevel, settings.logFile, settings.plans,
       settings.storage, ()))

/-- Where the broker listens. -/
def address (settings : Settings) : String :=
  settings.host ++ ":" ++ toString settings.port.toNat

/-- The name of the file for the log, or the lack of one. -/
def describeLogFile : Option String → String
  | none => "None"
  | some path => "Some(" ++ Text.quoted path ++ ")"

/-- A description of the settings that leaves the password out. -/
def describe (settings : Settings) : String :=
  "ServerConfig \x7b host: " ++ Text.quoted settings.host
    ++ ", port: " ++ toString settings.port.toNat
    ++ ", broker_id: " ++ Text.quoted settings.brokerId
    ++ ", broker_username: " ++ Text.quoted settings.brokerUsername
    ++ ", log_level: " ++ settings.logLevel.title
    ++ ", log_file: " ++ describeLogFile settings.logFile
    ++ ", plans: [" ++ ", ".intercalate (settings.plans.map fun plan => Text.quoted plan.id)
    ++ "], storage: " ++ settings.storage.kind.title ++ " \x7d"

end Settings

end GraphBroker.Config
