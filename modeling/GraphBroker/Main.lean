import GraphBroker.Gateway.Wire
import GraphBroker.Remote.Wire
import GraphBroker.Startup.Service
import Std.Async.DNS
import Std.Async.Signal
import Std.Async.TCP
import Std.Sync.Semaphore

namespace GraphBroker.Main

open Std.Async

/-!
# The program

The outer layer: it answers the questions of a start from the machine that it
runs on, carries messages between connections and the broker, and ends when it
is told to.
-/

/-! ## Numbers of errors -/

/-- The number of an error, which may stand as its complement. -/
def numberOf (error : IO.Error) : Nat :=
  let code : UInt32 :=
    match error with
    | .alreadyExists _ code _ | .invalidArgument _ code _ | .permissionDenied _ code _
    | .resourceExhausted _ code _ | .inappropriateType _ code _ | .noSuchThing _ code _
    | .interrupted _ code _ | .noFileOrDirectory _ code _ => code
    | .otherError code _ | .resourceBusy code _ | .resourceVanished code _
    | .unsupportedOperation code _ | .hardwareFault code _ | .unsatisfiedConstraints code _
    | .illegalOperation code _ | .protocolError code _ | .timeExpired code _ => code
    | .unexpectedEof | .userError _ => 0
  if code < 0x80000000 then code.toNat else (0 - code).toNat

/-- The outcome of something done with a file. -/
def onFile (action : IO α) : IO (Except Host.FileError α) := do
  try
    return .ok (← action)
  catch error =>
    return .error (.ofCode (toString error) (numberOf error))

/-! ## Connections -/

/-- An address of the network, and a port. -/
def socketAddress (address : Std.Net.IPAddr) (port : UInt16) : Std.Net.SocketAddress :=
  match address with
  | .v4 address => .v4 { addr := address, port }
  | .v6 address => .v6 { addr := address, port }

/-- A host without the brackets around a numeric one. -/
def withoutBrackets (host : String) : String :=
  String.ofList (host.toList.filter fun c => c != '[' && c != ']')

/-- The first address of a host. -/
def resolve (host : String) (port : UInt16) : Async (Option Std.Net.SocketAddress) := do
  try
    let addresses ← DNS.getAddrInfo (withoutBrackets host) (toString port)
    return addresses[0]?.map (socketAddress · port)
  catch _ =>
    return none

/-- The number of bytes that are asked for at once. -/
def packet : UInt64 := 0x40000

/-- The number of connections that may wait. -/
def backlog : UInt32 := 1024

/-- Where the place to listen at is kept once it has been opened. -/
abbrev Listener : Type := IO.Ref (Option TCP.Socket.Server)

/-- Open a place to listen at. -/
def openListener (listener : Listener) (host : String) (port : UInt16) :
    Async (Except Host.ListenError Unit) := do
  match ← resolve host port with
  | none => return .error .unknownName
  | some address =>
      try
        let socket ← TCP.Socket.Server.mk
        socket.bind address
        socket.listen backlog
        listener.set (some socket)
        return .ok ()
      catch error =>
        return .error (.ofCode (numberOf error))

/-- Receive bytes up to the end of an answer. -/
partial def receiveAnswer (socket : TCP.Socket.Client) (received : List UInt8) :
    Async (Option Remote.Response) := do
  match Remote.Response.read false received with
  | .whole response _ => return some response
  | .malformed => return none
  | .unfinished =>
      match ← socket.recv? packet with
      | some bytes => receiveAnswer socket (received ++ bytes.toList)
      | none =>
          match Remote.Response.read true received with
          | .whole response _ => return some response
          | _ => return none

/-- A boundary that no body holds but by a rare accident. -/
def boundary : IO String := do
  let bytes ← IO.getRandomBytes 16
  return String.join (bytes.toList.map fun byte => toString byte.toNat)

/-- Send a request over a connection of its own. -/
def exchange (request : Remote.Request) : Async (Option Remote.Response) := do
  if request.url.scheme ≠ "http" then
    return none
  try
    let port := UInt16.ofNat request.url.knownPort
    match ← resolve (request.url.host) port with
    | none => return none
    | some address =>
        let socket ← TCP.Socket.Client.mk
        socket.connect address
        let message := request.message (← boundary)
        socket.send ⟨message.render.toArray⟩
        receiveAnswer socket []
  catch _ =>
    return none

/-! ## The machine -/

/-- Answer a question from the machine. -/
def answer (listener : Listener) : (question : Host.Question) → Async question.Reply
  | .read path => onFile do return (← IO.FS.readBinFile path).toList
  | .append path text => onFile do (← IO.FS.Handle.mk path .append).putStr text
  | .write path contents => onFile (IO.FS.writeBinFile path ⟨contents.toArray⟩)
  | .has path => do
      let found ← onFile (IO.FS.realPath path)
      return found.isOk
  | .makeDirectories path => onFile (IO.FS.createDirAll path)
  | .note note => do
      IO.eprint (Startup.Log.line note)
  | .complain line => do
      IO.eprintln line
  | .listen host port => openListener listener host port
  | .exchange request => exchange request

/-- Hold a conversation with the machine. -/
def hold (listener : Listener) (steps : Host.Steps α) : Async α :=
  steps.runIn (answer listener)

/-! ## Serving -/

/-- A letter of a generated name. -/
def pick : IO (Fin 52) := do
  let bytes ← IO.getRandomBytes 4
  let value := bytes.toList.foldl (fun value byte => value * 256 + byte.toNat) 0
  return ⟨value % 52, Nat.mod_lt value (by decide)⟩

/-- What a running broker keeps: its surroundings, and the permit to change them. -/
structure Running where
  service : Startup.Service
  listener : Listener
  surroundings : IO.Ref Surroundings
  permit : Std.Semaphore

/-- Save the records that a request may have changed. -/
def save (running : Running) (store : Store.Backend) : Async Unit := do
  match running.service.database, store with
  | some database, .relational tables =>
      match ← hold running.listener (database.save tables).run with
      | .ok () => return
      | .error error => IO.eprintln error.message
  | _, _ => return

/-- Answer a request, one at a time. -/
def serve (running : Running) (request : Gateway.Request) : Async Gateway.Response := do
  let draws ← Plan.Draws.draw pick
  await (← running.permit.acquire)
  try
    let steps := (Surroundings.serve running.service.broker draws request).run
      (← running.surroundings.get)
    let (response, changed) ← hold running.listener (Host.overWire steps)
    running.surroundings.set changed
    save running changed.store
    return response
  finally
    running.permit.release

/-- Send an answer. -/
def send (socket : TCP.Socket.Client) (response : Gateway.Response) : Async Unit :=
  socket.send ⟨response.message.render.toArray⟩

/-- Answer the requests of a connection. -/
partial def converse (running : Running) (socket : TCP.Socket.Client) (received : List UInt8) :
    Async Unit := do
  match Gateway.Request.message received with
  | .malformed => send socket (.bare 400)
  | .unfinished =>
      match ← socket.recv? packet with
      | some bytes => converse running socket (received ++ bytes.toList)
      | none => return
  | .whole message rest =>
      match Gateway.Request.ofMessage? message with
      | none => send socket (.bare 400)
      | some request =>
          send socket (← serve running request)
          if Gateway.staysOpen message then
            converse running socket rest

/-- Answer the requests of a connection and end it. -/
def attend (running : Running) (socket : TCP.Socket.Client) : Async Unit := do
  try
    converse running socket []
    socket.shutdown
  catch _ =>
    return

/-- Accept connections until the program is told to end. -/
partial def accept
    (running : Running)
    (socket : TCP.Socket.Server)
    (told : Array (Selector Unit)) :
    Async Unit := do
  let ending := told.map fun selector => Selectable.case selector fun _ => return none
  let event ← Selectable.one (ending.push (.case socket.acceptSelector fun client => return some client))
  match event with
  | none => return
  | some client =>
      background (attend running client)
      accept running socket told

/-- Serve until the program is told to end. -/
def run (service : Startup.Service) (listener : Listener) : Async Unit := do
  match ← listener.get with
  | none => return
  | some socket =>
      let interrupt ← Signal.Waiter.mk .sigint false
      let terminate ← Signal.Waiter.mk .sigterm false
      let running : Running :=
        { service
          listener
          surroundings := ← IO.mkRef service.surroundings
          permit := ← Std.Semaphore.new 1 }
      accept running socket #[interrupt.selector, terminate.selector]
      hold listener (service.log.say .info "Server stopped")

/-! ## The command line -/

/-- The variable for the filter of the log. -/
def filterVariable : String := "LOG_FILTER"

/-- Follow a command line to its end. -/
def follow (words : List String) : Async Startup.Ending := do
  let listener : Listener ← IO.mkRef none
  let settings ← Config.Environment.names.mapM fun name => return (name, ← IO.getEnv name)
  let filter ← IO.getEnv filterVariable
  let ending ← hold listener (Startup.follow words (.ofSettings settings) filter)
  match ending with
  | .serving service => run service listener
  | _ => return ending
  return ending

end GraphBroker.Main

/-- The broker from the command line. -/
def main (words : List String) : IO UInt32 := do
  let ending ← (GraphBroker.Main.follow words).block
  IO.print ending.output
  IO.eprint ending.complaint
  return ending.exitCode
