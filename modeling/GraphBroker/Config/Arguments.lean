namespace GraphBroker.Config

/-!
# Command-line arguments

Words are taken from left to right.  An option is written `--port 80` or
`--port=80`, switches have no value, and `--` makes everything after it a plain
word.  A value is judged when the next option, switch or plain word comes, or at
the end: until then the word that it belongs to is open.  So of two mistakes the
one that is noticed first is reported, which need not be the one further left.
-/

/-- What the command line says. -/
structure Arguments where
  /-- The configuration file. -/
  config : String
  /-- The port that goes before every other. -/
  port : Option UInt16
  /-- Only create the tables of the relational store. -/
  migrate : Bool
  deriving Repr, DecidableEq

/-- What is wrong with a command line. -/
inductive UsageError where
  | unknownArgument
  | tooManyValues
  | missingValue
  | invalidValue
  | repeated
  deriving Repr, DecidableEq

/-- The words for a mistake on a command line. -/
def UsageError.message : UsageError → String
  | .unknownArgument => "unexpected argument"
  | .tooManyValues => "a switch takes no value"
  | .missingValue => "an option needs a value"
  | .invalidValue => "the value of an option is invalid"
  | .repeated => "an argument cannot be used several times"

/-- Why a command line does not start the broker. -/
inductive Dismissal where
  | help
  | version
  | misused (error : UsageError)
  deriving Repr, DecidableEq

namespace Arguments

/-- One word of the command line, as it is written. -/
inductive Word where
  /-- The mark after which every word is plain. -/
  | separator
  /-- A word with two hyphens, split at its equals sign. -/
  | long (name : String) (value : Option String)
  /-- A word with one hyphen, begun by a letter. -/
  | short (letter : Char)
  | plain (text : String)
  deriving Repr, DecidableEq

/-- An argument whose value has not been judged yet. -/
inductive Pending where
  | nothing
  | port (value : Option String)
  | config (path : String)
  deriving Repr, DecidableEq

/-- A command line as far as it has been read. -/
structure Reading where
  config : Option String
  port : Option UInt16
  migrate : Bool
  pending : Pending
  /-- Every further word is plain. -/
  plainOnly : Bool
  deriving Repr, DecidableEq

/-- The configuration file unless the command line names one. -/
def standardConfig : String := "data/conf.json"

namespace Word

/-- The parts of what follows two hyphens. -/
def splitLong (chars : List Char) : Word :=
  let name := String.ofList (chars.takeWhile (· != '='))
  match chars.dropWhile (· != '=') with
  | [] => .long name none
  | _ :: value => .long name (some (String.ofList value))

/-- What kind of word a text is. -/
def ofText (text : String) : Word :=
  match text.toList with
  | ['-', '-'] => .separator
  | '-' :: '-' :: rest => splitLong rest
  | '-' :: letter :: _ => .short letter
  | _ => .plain text

end Word

/-- The digits of a whole number, which may have a sign. -/
def readDigits (value : Nat) : List Char → Option Nat
  | [] => some value
  | c :: rest => if c.isDigit then readDigits (value * 10 + (c.toNat - '0'.toNat)) rest else none

/-- The port that a value gives: a whole number in range, with or without a sign. -/
def readPort (text : String) : Option UInt16 := do
  let (negative, digits) :=
    match text.toList with
    | '-' :: digits => (true, digits)
    | '+' :: digits => (false, digits)
    | digits => (false, digits)
  if digits.isEmpty then none
  else
    let value ← readDigits 0 digits
    if value < 65536 && (!negative || value == 0) then some (UInt16.ofNat value) else none

namespace Reading

/-- Nothing read yet. -/
def start : Reading :=
  ⟨none, none, false, .nothing, false⟩

/-- Refuse the command line. -/
def refuse (error : UsageError) : Except Dismissal α :=
  .error (.misused error)

/-- Give the port a value. -/
def setPort (reading : Reading) (value : String) : Except Dismissal Reading :=
  match reading.port with
  | some _ => refuse .repeated
  | none =>
      match readPort value with
      | some port => .ok { reading with port := some port }
      | none => refuse .invalidValue

/-- Judge the value of the argument that is open. -/
def settle (reading : Reading) : Except Dismissal Reading :=
  let settled := { reading with pending := .nothing }
  match reading.pending with
  | .nothing => .ok settled
  | .port none => refuse .missingValue
  | .port (some value) => settled.setPort value
  | .config path =>
      if path.isEmpty then refuse .missingValue else .ok { settled with config := some path }

/-- A switch that tells instead of starting. -/
def tell (reading : Reading) (dismissal : Dismissal) : Except Dismissal Reading := do
  let _ ← reading.settle
  .error dismissal

/-- A word with two hyphens. -/
def takeLong (reading : Reading) (name : String) (value : Option String) :
    Except Dismissal Reading :=
  if name = "port" then do
    let reading ← reading.settle
    match value with
    | some value => reading.setPort value
    | none => .ok { reading with pending := .port none }
  else if name = "migrate" ∨ name = "help" ∨ name = "version" then
    if value.isSome then refuse .tooManyValues
    else if name = "help" then reading.tell .help
    else if name = "version" then reading.tell .version
    else do
      let reading ← reading.settle
      if reading.migrate then refuse .repeated else .ok { reading with migrate := true }
  else refuse .unknownArgument

/-- A word with one hyphen. -/
def takeShort (reading : Reading) (letter : Char) : Except Dismissal Reading :=
  if letter = 'h' then reading.tell .help
  else if letter = 'V' then reading.tell .version
  else refuse .unknownArgument

/-- The configuration file has been named. -/
def namesConfig (reading : Reading) : Bool :=
  match reading.config, reading.pending with
  | none, .config _ => true
  | config, _ => config.isSome

/-- A word without a meaning of its own: a value that is waited for, or the configuration file. -/
def takePlain (reading : Reading) (text : String) : Except Dismissal Reading :=
  match reading.pending, reading.plainOnly with
  | .port none, false => .ok { reading with pending := .port (some text) }
  | _, _ =>
      if reading.namesConfig then refuse .unknownArgument
      else do
        let reading ← reading.settle
        .ok { reading with pending := .config text }

/-- Take one more word. -/
def step (reading : Reading) (text : String) : Except Dismissal Reading :=
  if reading.plainOnly then reading.takePlain text
  else
    match Word.ofText text with
    | .separator => .ok { reading with plainOnly := true }
    | .long name value => reading.takeLong name value
    | .short letter => reading.takeShort letter
    | .plain text => reading.takePlain text

end Reading

/-- Read a command line. -/
def parse (words : List String) : Except Dismissal Arguments := do
  let reading ← words.foldlM Reading.step Reading.start
  let reading ← reading.settle
  return {
    config := reading.config.getD standardConfig
    port := reading.port
    migrate := reading.migrate }

end Arguments

end GraphBroker.Config
