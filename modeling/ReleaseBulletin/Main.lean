import ReleaseBulletin.Command.Run
import ReleaseBulletin.Http.Wire
import Std.Async.DNS
import Std.Async.TCP

/-!
The command line. It carries out what a session asks for: it reads files, sends requests over
connections that are not encrypted, and writes notices to the error stream.
-/
namespace ReleaseBulletin.Main
open Command Http Notice Std.Async

/-- The number of an error, which some parts of the system give with a minus sign. -/
def systemNumber (n : UInt32) : Nat :=
  if n.toNat < Width.count 31 then n.toNat else Width.count 32 - n.toNat

/-- The fault that a system's error stands for. -/
def systemFault : IO.Error → FileTree.Fault
  | .alreadyExists _ n s | .otherError n s | .resourceBusy n s | .resourceVanished n s
  | .unsupportedOperation n s | .hardwareFault n s | .unsatisfiedConstraints n s
  | .illegalOperation n s | .protocolError n s | .timeExpired n s | .interrupted _ n s
  | .noFileOrDirectory _ n s | .invalidArgument _ n s | .permissionDenied _ n s
  | .resourceExhausted _ n s | .inappropriateType _ n s | .noSuchThing _ n s =>
    .ofNumber s (systemNumber n)
  | .unexpectedEof => .other "unexpected end of file" 0
  | .userError s => .other s 0

def readFile (path : String) : IO (Except FileTree.Fault Bytes) :=
  if path.toList.contains '\x00' then return .error .zeroByte
  else do
    try
      return .ok (← IO.FS.readBinFile path).toList
    catch e => return .error (systemFault e)

def fileExists (path : String) : IO Bool := do
  try
    let _ ← IO.FS.realPath path
    return true
  catch _ => return false

def lookupName : Url.Host → String
  | .address6 pieces => String.ofList (Url.Host.address6Text pieces)
  | host => String.ofList host.text

def socketAddress (port : UInt16) : Std.Net.IPAddr → Std.Net.SocketAddress
  | .v4 a => .v4 ⟨a, port⟩
  | .v6 a => .v6 ⟨a, port⟩

/-- A connection to the first of the addresses that takes one. -/
def connect? : List Std.Net.SocketAddress → IO (Option TCP.Socket.Client)
  | [] => return none
  | a :: rest => do
    try
      let socket ← TCP.Socket.Client.mk
      (socket.connect a).block
      return some socket
    catch _ => connect? rest

/-- All bytes that come over a connection, after those that came already. -/
partial def receive (socket : TCP.Socket.Client) (received : ByteArray) : IO ByteArray := do
  let more ← try (socket.recv? 65536).block catch _ => pure none
  match more with
  | none => return received
  | some bytes => receive socket (received ++ bytes)

def exchange (socket : TCP.Socket.Client) (request : Request) : IO Contact := do
  try
    (socket.send ⟨(Http.Wire.requestBytes request).toArray⟩).block
    return Http.Wire.contact (← receive socket .empty).toList
  catch _ => return .silent

/-- What becomes of a request. Servers that want encryption are out of reach. -/
def contact (request : Request) : IO Contact :=
  match request.url.scheme, request.url.host?, Http.Fetch.serverPort? request.url with
  | "http", some host, some port => do
    let addresses ← try (DNS.getAddrInfo (lookupName host) "").block catch _ => pure #[]
    match ← connect? (addresses.toList.map (socketAddress port.toUInt16)) with
    | some socket => exchange socket request
    | none => return .unreachable
  | _, _, _ => return .unreachable

def perform {α : Type} (log : Notice → IO Unit) : Session α → IO (Except Failure α)
  | .done result => return result
  | .note n next => do
    log n
    perform log next
  | .read path next => do
    let content ← readFile path
    perform log (next content)
  | .probe path next => do
    let found ← fileExists path
    perform log (next found)
  | .send request next => do
    let fate ← contact request
    perform log (next fate)

def variableNames : List String := Environment.requiredNames ++ ["CI", "HOME", "RUST_LOG"]

def environment : IO Environment.Variables := do
  let values ← variableNames.mapM fun name => do return (name, ← IO.getEnv name)
  return fun name => (values.lookup name).join

/-- Tells the user how it ended. -/
def tell (ending : Run.Ending) : IO UInt32 := do
  IO.print ending.output
  match ending.complaint with
  | none => pure ()
  | some s => IO.eprintln s
  return ending.exitCode.toUInt32

end ReleaseBulletin.Main

open ReleaseBulletin in
def main (arguments : List String) : IO UInt32 := do
  match Command.Run.plan arguments (← Main.environment) with
  | .settled ending => Main.tell ending
  | .work format directives session =>
    let log (n : Notice) : IO Unit :=
      if Command.Filter.shows directives n then IO.eprintln (Command.Filter.line format n)
      else return
    Main.tell (.ofResult (← Main.perform log session))
