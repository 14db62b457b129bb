import GraphBroker.Config.Sources
import GraphBroker.Store.Basic
import GraphBroker.Text.Split

namespace GraphBroker.Startup

/-!
# Why a broker does not start

A failure is reported with what caused it, and with what caused that in turn.
A single cause stands alone, several are numbered, and a cause of several lines
keeps its indentation.
-/

/-- Why a broker does not start. -/
inductive Failure where
  | config (error : Config.Error)
  /-- Tables were to be created for another kind of storage. -/
  | noTables (kind : Config.StorageKind)
  | plans (error : PlanSettingError)
  | relationalSetting (error : Json.ReadError)
  /-- The directory for the database cannot be created. -/
  | directory (error : Host.FileError)
  | notOpened (address : String) (error : Store.DatabaseError)
  /-- The tables could not be created, which is all that was wanted. -/
  | notMigrated (error : Store.DatabaseError)
  /-- The tables could not be created before serving. -/
  | notPrepared (error : Store.DatabaseError)
  | graphSetting (error : Json.ReadError)
  | graph (failure : Remote.Failure)
  | notListening (error : Host.ListenError)

namespace Failure

/-- The words for a database error, and then those of the database itself. -/
def databaseChain (error : Store.DatabaseError) : List String :=
  [error.message, error.detail]

/-- The words for what kept a request from being sent. -/
def deeper : Remote.Undelivered → List String
  | .foreignScheme => ["URL scheme is not allowed"]
  | .unwritable => ["Parsed Url is not a valid Uri"]
  | .unwritableField => ["failed to parse header value"]
  | .unanswered => []

/-- The words for the failure of a call on a server, and then those for what caused it. -/
def remoteChain (failure : Remote.Failure) : List String :=
  match failure with
  | .undelivered reason url => [failure.message, reason.describe url] ++ deeper reason
  | .malformed error => [failure.message, error.message]
  | _ => [failure.message]

/-- The words for an entry that cannot be offered, and then those for what caused it. -/
def planChain (error : PlanSettingError) : List String :=
  match error with
  | .invalidParameters _ cause => [error.message, cause.message]
  | _ => [error.message]

/-- The words for a failure, and then those for what caused it. -/
def chain : Failure → List String
  | .config error => error.chain
  | .noTables kind =>
      ["--migrate needs \x60sql\x60 storage, the configured storage is " ++ kind.title]
  | .plans error => "parsing the plan configuration" :: planChain error
  | .relationalSetting error => ["parsing the sql storage parameters", error.message]
  | .directory error => [error.message]
  | .notOpened address error => ("opening the SQL store at " ++ address) :: databaseChain error
  | .notMigrated error => "running the schema migration" :: databaseChain error
  | .notPrepared error => "creating the SQL schema" :: databaseChain error
  | .graphSetting error => ["parsing the stardog storage parameters", error.message]
  | .graph failure => "setting up the stardog data store" :: remoteChain failure
  | .notListening error => [error.message]

/-- A cause under a mark, with its further lines as far to the right. -/
def indented (mark : String) (cause : String) : String :=
  let margin := String.ofList (List.replicate mark.length ' ')
  mark ++ ("\n" ++ margin).intercalate
    ((Text.splitChars (· == '\n') cause.toList).map String.ofList)

/-- The causes, numbered from zero. -/
def numbered (number : Nat) : List String → List String
  | [] => []
  | cause :: rest => indented ("    " ++ toString number ++ ": ") cause :: numbered (number + 1) rest

/-- The report on a failure. -/
def report (failure : Failure) : String :=
  match failure.chain with
  | [] => "Error: "
  | [problem] => "Error: " ++ problem
  | [problem, cause] => "Error: " ++ problem ++ "\n\nCaused by:\n" ++ indented "    " cause
  | problem :: causes =>
      "Error: " ++ problem ++ "\n\nCaused by:\n" ++ "\n".intercalate (numbered 0 causes)

end Failure

end GraphBroker.Startup
