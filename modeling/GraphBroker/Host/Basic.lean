import GraphBroker.Config.LogLevel
import GraphBroker.Host.Failure
import GraphBroker.Remote.Exchange

namespace GraphBroker.Host

/-!
# The machine around the broker

Everything that a broker wants from its surroundings before it can serve is a
question to the machine: files, a place to listen, and requests to other
servers.  What it has to say goes out as notes for the log and as complaints.
-/

/-- A line for the log. -/
structure Note where
  level : Config.LogLevel
  text : String
  deriving Repr, DecidableEq

/-- What is asked of the machine. -/
inductive Question where
  /-- The bytes of a file. -/
  | read (path : String)
  /-- Add a text to a file, which is created if it is missing. -/
  | append (path : String) (text : String)
  /-- Give a file new contents. -/
  | write (path : String) (contents : List UInt8)
  /-- Is there a file or a directory under this name? -/
  | has (path : String)
  /-- Create a directory and those above it, as far as they are missing. -/
  | makeDirectories (path : String)
  /-- Show a line for the log. -/
  | note (note : Note)
  /-- Show a line that is no part of the log. -/
  | complain (line : String)
  /-- Accept connections. -/
  | listen (host : String) (port : UInt16)
  /-- Send a request to another server. -/
  | exchange (request : Remote.Request)

namespace Question

/-- What answers a question. -/
def Reply : Question → Type
  | .read _ => Except FileError (List UInt8)
  | .append _ _ | .write _ _ | .makeDirectories _ => Except FileError Unit
  | .has _ => Bool
  | .note _ | .complain _ => Unit
  | .listen _ _ => Except ListenError Unit
  | .exchange _ => Option Remote.Response

end Question

/-- Conversations with the machine. -/
def protocol : Protocol :=
  ⟨Question, Question.Reply⟩

/-- Steps of a conversation with the machine. -/
abbrev Steps (α : Type) : Type := Dialogue protocol α

/-- The bytes of a file. -/
def read (path : String) : Steps (Except FileError (List UInt8)) :=
  .question (P := protocol) (.read path)

/-- Add a text to a file, which is created if it is missing. -/
def append (path text : String) : Steps (Except FileError Unit) :=
  .question (P := protocol) (.append path text)

/-- Give a file new contents. -/
def write (path : String) (contents : List UInt8) : Steps (Except FileError Unit) :=
  .question (P := protocol) (.write path contents)

/-- Is there a file or a directory under this name? -/
def has (path : String) : Steps Bool :=
  .question (P := protocol) (.has path)

/-- Create a directory and those above it, as far as they are missing. -/
def makeDirectories (path : String) : Steps (Except FileError Unit) :=
  .question (P := protocol) (.makeDirectories path)

/-- Show a line for the log. -/
def note (note : Note) : Steps Unit :=
  .question (P := protocol) (.note note)

/-- Show a line that is no part of the log. -/
def complain (line : String) : Steps Unit :=
  .question (P := protocol) (.complain line)

/-- Accept connections. -/
def listen (host : String) (port : UInt16) : Steps (Except ListenError Unit) :=
  .question (P := protocol) (.listen host port)

/-- Hold a conversation with other servers through the machine. -/
def overWire (dialogue : Dialogue Remote.wire α) : Steps α :=
  dialogue.relay (Q := protocol) fun (request : Remote.Request) =>
    .question (P := protocol) (.exchange request)

end GraphBroker.Host
