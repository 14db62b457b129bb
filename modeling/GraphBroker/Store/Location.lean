import GraphBroker.Json.Shape
import GraphBroker.Store.Basic
import GraphBroker.Text.Blank
import GraphBroker.Text.Form
import GraphBroker.Text.Percent
import GraphBroker.Text.Split

namespace GraphBroker.Store

open Json

/-!
# Where a relational store is kept

The settings of the store may hold an address; without one the records of a
broker are in a file of their own.  An address names a file and says with
parameters how to open it; a store without a file is in memory.
-/

/-- The settings of a relational store. -/
structure RelationalSetting where
  address : Option String
  deriving Repr, DecidableEq

/-- How a database is to be opened. -/
structure Location where
  /-- The name of the file. -/
  file : String
  inMemory : Bool
  readOnly : Bool
  /-- Nobody writes the file as long as it is open. -/
  frozen : Bool
  /-- The way to reach files, where it is not the usual one. -/
  driver : Option String
  deriving Repr, DecidableEq

/-- What is opened. -/
inductive Place where
  | memory
  | file (path : String)
  deriving Repr, DecidableEq

namespace RelationalSetting

/-- Settings without an address. -/
def standard : RelationalSetting :=
  ⟨none⟩

/-- How the settings are read and written. -/
def codec : Codec RelationalSetting :=
  .record "struct SqlStoreParameters" (.cons (.optional "contact_string" .text) .nil)
    (fun (address, ()) => { address })
    (fun setting => (setting.address, ()))

/-- The address of the database for the records of a broker. -/
def contact (setting : RelationalSetting) (brokerId : String) : String :=
  let address := Text.trim (setting.address.getD "")
  if address.isEmpty then "sqlite://data/" ++ brokerId ++ ".db" else address

end RelationalSetting

/-- What follows any number of repetitions of a beginning. -/
def dropRepeated (beginning : List Char) (chars : List Char) : List Char :=
  if beginning.isEmpty ∨ ¬ beginning.isPrefixOf chars then chars
  else dropRepeated beginning (chars.drop beginning.length)
termination_by chars.length
decreasing_by
  rename_i condition
  simp only [not_or, Decidable.not_not] at condition
  obtain ⟨nonempty, leads⟩ := condition
  have shorter := (List.isPrefixOf_iff_prefix.mp leads).length_le
  have positive : 0 < beginning.length := by
    cases beginning with
    | nil => simp at nonempty
    | cons _ _ => simp
  simp only [List.length_drop]
  omega

namespace Location

/-- The name of a database that has no file. -/
def memoryName : String := ":memory:"

/-- A file opened in the usual way. -/
def ofFile (file : String) : Location :=
  { file, inMemory := false, readOnly := false, frozen := false, driver := none }

/-- Follow a parameter. -/
def withParameter (location : Location) (field : Text.Form.Field) :
    Except DatabaseError Location :=
  let unknown : Except DatabaseError Location := .error (.unknownValue field.name field.value)
  if field.name = "mode" then
    if field.value = "ro" then .ok { location with readOnly := true }
    else if field.value = "rw" ∨ field.value = "rwc" then .ok location
    else if field.value = "memory" then .ok { location with inMemory := true }
    else unknown
  else if field.name = "cache" then
    if field.value = "private" ∨ field.value = "shared" then .ok location else unknown
  else if field.name = "immutable" then
    if field.value = "true" ∨ field.value = "1" then .ok { location with frozen := true }
    else if field.value = "false" ∨ field.value = "0" then .ok { location with frozen := false }
    else unknown
  else if field.name = "vfs" then .ok { location with driver := some field.value }
  else .error (.unknownParameter field.name)

/-- The location that an address stands for. -/
def ofAddress (address : String) : Except DatabaseError Location := do
  let chars := dropRepeated ['/', '/'] (dropRepeated "sqlite:".toList address.toList)
  let name := chars.takeWhile (· != '?')
  let location ←
    if String.ofList name = memoryName then
      pure { ofFile memoryName with inMemory := true }
    else
      let bytes := Text.Percent.decode (Text.Utf8.encodeChars name)
      match Text.Utf8.flaw? bytes with
      | some flaw => .error (.undecodablePath flaw)
      | none => pure (ofFile (Text.Utf8.decodeLossy bytes))
  (Text.Form.parse ((chars.dropWhile (· != '?')).drop 1)).foldlM withParameter location

/-- The way to reach files that keeps them in memory. -/
def memoryDriver : String := "memdb"

/-- The ways to reach files that are known. -/
def drivers : List String :=
  ["unix", "unix-excl", "unix-dotfile", "unix-none", memoryDriver]

/-- The name of the file in a `file:` address. -/
def fileOfUri (chars : List Char) : Except DatabaseError String := do
  let path ←
    match chars with
    | '/' :: '/' :: rest =>
        let authority := String.ofList (rest.takeWhile (· != '/'))
        if authority.isEmpty ∨ authority = "localhost" then pure (rest.dropWhile (· != '/'))
        else .error (.invalidAuthority authority)
    | _ => pure chars
  let name := path.takeWhile fun c => c != '?' && c != '#'
  return Text.Utf8.decodeLossy (Text.Percent.decode (Text.Utf8.encodeChars name))

/-- What is opened for a location. -/
def place (location : Location) : Except DatabaseError Place := do
  match location.driver with
  | some driver => if driver ∉ drivers then .error (.unknownDriver driver)
  | none => pure ()
  if location.inMemory || location.driver == some memoryDriver then return .memory
  let plain := location.driver.isSome || location.frozen
  let file ←
    match plain, location.file.toList with
    | false, 'f' :: 'i' :: 'l' :: 'e' :: ':' :: rest => fileOfUri rest
    | _, _ => pure location.file
  if file.toList.contains '\x00' then .error .invalidName
  else if file.isEmpty ∨ file = memoryName then return .memory
  else return .file file

/-- Nothing can be written to the database. -/
def refusesWrites (location : Location) : Bool :=
  location.readOnly || (location.frozen && !location.inMemory)

end Location

/-- The path whose directory is created before the database at an address is opened. -/
def filePath (address : String) : String :=
  String.ofList <|
    dropRepeated "file:".toList <|
    dropRepeated "sqlite:".toList <|
    dropRepeated "sqlite://".toList address.toList

end GraphBroker.Store
