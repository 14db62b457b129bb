import GraphBroker.Host.Basic
import GraphBroker.Host.Path
import GraphBroker.Text.Utf8

namespace GraphBroker.Host

/-!
# A workspace

A machine of which everything is known: a tree of files, a directory to work in,
what has been shown so far, and the other end of the wire.  It stands in for a
real machine when the broker is rehearsed.
-/

/-- What a name in the tree stands for. -/
inductive Entry where
  | file (contents : List UInt8)
  | directory
  /-- A file that takes everything and stays empty. -/
  | sink
  deriving Repr, DecidableEq

/-- The names that lead to an entry from the root, innermost first. -/
abbrev Place : Type := List String

/-- A machine of which everything is known. -/
structure Workspace where
  /-- Where paths start that are not absolute. -/
  home : Place
  /-- The tree, newest entries first. -/
  entries : List (Place × Entry)
  /-- The lines shown outside of the log. -/
  complaints : List String
  /-- The lines shown for the log. -/
  notes : List Note
  peer : Remote.Peer

namespace Workspace

/-- The greatest number of bytes in a name. -/
def nameLimit : Nat := 255

/-- The greatest number of bytes in a path. -/
def pathLimit : Nat := 4095

/-- A tree with the directories that every machine has, and some files in the directory to work in. -/
def ofFiles (files : List (String × List UInt8)) (peer : Remote.Peer) : Workspace :=
  let home := ["workspace", "srv"]
  { home
    entries :=
      (files.map fun (name, contents) => (name :: home, Entry.file contents)) ++
        [(home, .directory), (["srv"], .directory), (["tmp"], .directory),
         (["null", "dev"], .sink), (["dev"], .directory), ([], .directory)]
    complaints := []
    notes := []
    peer }

/-- What stands at a place. -/
def entry? (workspace : Workspace) (place : Place) : Option Entry :=
  workspace.entries.lookup place

/-- Put something at a place. -/
def put (workspace : Workspace) (place : Place) (entry : Entry) : Workspace :=
  { workspace with
    entries := (place, entry) :: workspace.entries.filter fun (other, _) => other != place }

/-- Names can be looked up at a place. -/
def requireDirectory (workspace : Workspace) (place : Place) : Except FileError Unit :=
  match workspace.entry? place with
  | some .directory => .ok ()
  | some _ => .error .notADirectory
  | none => .error .missing

/-- Follow names from a place. -/
def walk (workspace : Workspace) (place : Place) : List String → Except FileError Place
  | [] => .ok place
  | name :: rest =>
      match workspace.requireDirectory place with
      | .error error => .error error
      | .ok () =>
          if nameLimit < name.utf8ByteSize then .error .nameTooLong
          else workspace.walk (Path.advance place name) rest

/-- A path that can be followed, and where it starts. -/
def start (workspace : Workspace) (text : String) : Except FileError (Path × Place) :=
  if text.isEmpty then .error .missing
  else if text.toList.contains '\x00' then .error .invalidName
  else if pathLimit < text.utf8ByteSize then .error .nameTooLong
  else
    let path := Path.ofText text
    .ok (path, if path.absolute then [] else workspace.home)

/-- What a path leads to: the place, and what stands there. -/
def find (workspace : Workspace) (text : String) : Except FileError (Place × Option Entry) := do
  let (path, start) ← workspace.start text
  let place ← workspace.walk start path.steps
  match workspace.entry? place, path.trailing with
  | some (.file _), true | some .sink, true => .error .notADirectory
  | none, true => .error .isADirectory
  | entry, _ => return (place, entry)

/-- The bytes of a file. -/
def read (workspace : Workspace) (text : String) : Except FileError (List UInt8) :=
  match workspace.find text with
  | .ok (_, some (.file contents)) => .ok contents
  | .ok (_, some .sink) => .ok []
  | .ok (_, some .directory) => .error .isADirectory
  | .ok (_, none) => .error .missing
  | .error .isADirectory => .error .missing
  | .error error => .error error

/-- Change the contents of a file, which is created if it is missing. -/
def change (workspace : Workspace) (text : String) (contents : List UInt8 → List UInt8) :
    Except FileError Workspace := do
  let (place, entry) ← workspace.find text
  match entry with
  | some (.file old) => return workspace.put place (.file (contents old))
  | some .sink => return workspace
  | some .directory => .error .isADirectory
  | none => return workspace.put place (.file (contents []))

/-- Something stands at the end of a path. -/
def has (workspace : Workspace) (text : String) : Bool :=
  match workspace.find text with
  | .ok (_, some _) => true
  | _ => false

/-- Follow names from a place and create the directories that are missing. -/
def create (workspace : Workspace) (place : Place) : List String → Except FileError Workspace
  | [] => .ok workspace
  | name :: rest =>
      let next := Path.advance place name
      if nameLimit < name.utf8ByteSize then .error .nameTooLong
      else
        match workspace.entry? next with
        | some .directory => workspace.create next rest
        | some _ => .error (if rest.isEmpty then .taken else .notADirectory)
        | none => (workspace.put next .directory).create next rest

/-- Create a directory and those above it. -/
def makeDirectories (workspace : Workspace) (text : String) : Except FileError Workspace := do
  let (path, start) ← workspace.start text
  workspace.create start path.steps

/-- The broker can listen at an address: it names this machine. -/
def listen (host : String) : Except ListenError Unit :=
  let parts := Text.splitChars (· == '.') host.toList
  let isNumber (part : List Char) : Bool := !part.isEmpty && part.all Char.isDigit
  if host ∈ ["localhost", "0.0.0.0", "::", "[::]", "::1", "[::1]"] then .ok ()
  else if parts.length = 4 ∧ parts.all isNumber then
    if parts.head? = some ['1', '2', '7'] then .ok () else .error .notHere
  else .error .unknownName

/-- Keep what an attempt changed, and pass on how it went. -/
def attempt (workspace : Workspace) (result : Except FileError Workspace) :
    Except FileError Unit × Workspace :=
  match result with
  | .ok workspace => (.ok (), workspace)
  | .error error => (.error error, workspace)

/-- Answer a question to the machine. -/
def answer : (question : Question) → Workspace → question.Reply × Workspace
  | .read path, workspace => (workspace.read path, workspace)
  | .append path text, workspace =>
      workspace.attempt (workspace.change path fun old => old ++ Text.Utf8.encode text)
  | .write path contents, workspace => workspace.attempt (workspace.change path fun _ => contents)
  | .has path, workspace => (workspace.has path, workspace)
  | .makeDirectories path, workspace => workspace.attempt (workspace.makeDirectories path)
  | .note note, workspace => ((), { workspace with notes := workspace.notes ++ [note] })
  | .complain line, workspace =>
      ((), { workspace with complaints := workspace.complaints ++ [line] })
  | .listen host _, workspace => (listen host, workspace)
  | .exchange request, workspace =>
      let (reply, peer) := Remote.Peer.answer request workspace.peer
      (reply, { workspace with peer })

/-- The path of a place beneath another one. -/
def beneath? (home place : Place) : Option String :=
  if home.length < place.length ∧ place.drop (place.length - home.length) = home then
    some ("/".intercalate (place.take (place.length - home.length)).reverse)
  else none

/-- The paths of all files in the directory to work in. -/
def files (workspace : Workspace) : List String :=
  workspace.entries.filterMap fun (place, entry) =>
    match entry with
    | .file _ => beneath? workspace.home place
    | _ => none

end Workspace

end GraphBroker.Host
