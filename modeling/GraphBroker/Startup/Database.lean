import GraphBroker.Host.Basic
import GraphBroker.Host.Path
import GraphBroker.Startup.Failure
import GraphBroker.Startup.Log
import GraphBroker.Store.Image
import GraphBroker.Store.Location

namespace GraphBroker.Startup

/-!
# Databases in files

Opening a database creates its file but does not look into it; only when the
tables are created does it show whether the file holds a database, and whether
it can be written.
-/

/-- A database that has been opened. -/
structure Database where
  place : Store.Place
  /-- Nothing can be written to it. -/
  readOnly : Bool
  deriving Repr, DecidableEq

/-- Steps that end at the first database error. -/
abbrev DatabaseSteps (α : Type) : Type := ExceptT Store.DatabaseError (Dialogue Host.protocol) α

/-- Steps that end at the first failure. -/
abbrev Steps (α : Type) : Type := ExceptT Failure (Dialogue Host.protocol) α

namespace Database

/-- What was done with a file; the database has one word for all that may go wrong with it. -/
def onFile (steps : Host.Steps (Except Host.FileError α)) : DatabaseSteps α :=
  ExceptT.adapt (fun _ => .cannotOpen) (ExceptT.mk steps)

/-- Open the file of a database. -/
def openFile (path : String) (location : Store.Location) : DatabaseSteps Database := do
  if location.readOnly then
    let _ ← onFile (Host.read path)
  else
    onFile (Host.append path "")
  return ⟨.file path, location.refusesWrites⟩

/-- Open the database at an address. -/
def openAt (address : String) : DatabaseSteps Database := do
  let location ← ExceptT.mk (.done (Store.Location.ofAddress address))
  match ← ExceptT.mk (.done location.place) with
  | .memory => return ⟨.memory, location.refusesWrites⟩
  | .file path => openFile (Host.Path.ofText path).normal.render location

/-- What a database holds. -/
def contents (database : Database) : DatabaseSteps Store.Relational := do
  match database.place with
  | .memory => return .empty
  | .file path =>
      let bytes ← onFile (Host.read path)
      ExceptT.mk (.done (Store.Relational.ofImage bytes))

/-- Write to a database what it is to hold. -/
def save (database : Database) (store : Store.Relational) : DatabaseSteps Unit := do
  match database.place with
  | .memory => return
  | .file path => onFile (Host.write path store.image)

/-- Create the tables, unless they are there: the number of statements, and the store. -/
def migrate (database : Database) : DatabaseSteps (Nat × Store.Relational) := do
  let store ← database.contents
  let (count, migrated) := store.migrate
  if store.tables.isSome then
    return (count, store)
  else if database.readOnly then
    throw .readOnly
  else
    database.save migrated
    return (count, migrated)

/-- Create the directory for the database at an address, if it is missing. -/
def prepareDirectory (log : Log) (address : String) : Steps Unit := do
  let path := Store.filePath address
  if Store.Location.memoryName.toList.isPrefixOf path.toList then
    return
  if let some parent := (Host.Path.ofText path).parent? then
    let directory := parent.render
    if ← ExceptT.lift (Host.has directory) then
      return
    ExceptT.adapt Failure.directory (ExceptT.mk (Host.makeDirectories directory))
    ExceptT.lift (log.say .info ("Created missing directory " ++ Text.quoted directory))

/-- Open the database for the records of a broker. -/
def ofSettings (log : Log) (settings : Config.Settings) : Steps Database := do
  let parameters := settings.storage.parameters
  let setting : Store.RelationalSetting ←
    if parameters.isNull then
      pure .standard
    else
      ExceptT.mk <| .done <|
        (Store.RelationalSetting.codec.read.json parameters).mapError Failure.relationalSetting
  let address := setting.contact settings.brokerId
  prepareDirectory log address
  ExceptT.adapt (Failure.notOpened address) (openAt address)

end Database

end GraphBroker.Startup
