import ServerBrowser.CommandLine.Program
import ServerBrowser.Log.Registry
import ServerBrowser.Transport.Clock
import ServerBrowser.Transport.Datagram
import Std.Internal.UV.DNS
import Std.Internal.UV.System
import Std.Internal.UV.Timer
import Std.Internal.UV.UDP
import Std.Time

/-!
# The executable

This is the only part of the library that reaches the network, the clock, the environment and the
standard streams.  It gives the program its world and decides nothing.
-/

namespace ServerBrowser.Executable

open Std.Internal.UV

/-- A socket of the operating system with its time limit. -/
structure SystemSocket where
  socket : UDP.Socket
  timeout : IO.Ref Binary64

/-- The number of a system failure; some come with a minus sign. -/
def systemNumber (number : UInt32) : Int :=
  number.toInt32.toInt.natAbs

/-- A failure of the operating system as a fault. -/
def faultOf : IO.Error → Fault
  | .alreadyExists _ number text | .interrupted _ number text | .invalidArgument _ number text
  | .noFileOrDirectory _ number text | .permissionDenied _ number text
  | .resourceExhausted _ number text | .inappropriateType _ number text
  | .noSuchThing _ number text | .otherError number text | .resourceBusy number text
  | .resourceVanished number text | .unsupportedOperation number text
  | .hardwareFault number text | .unsatisfiedConstraints number text
  | .illegalOperation number text | .protocolError number text | .timeExpired number text =>
    .ofNumber (systemNumber number) text
  | .unexpectedEof => .system none "unexpected end" false
  | .userError text => .system none text false

/-- Run an action, and give its failure as a value. -/
def attempt (action : IO α) : IO (Except Fault α) := do
  try return .ok (← action) catch e => return .error (faultOf e)

/-- Wait for a promise. -/
def await (promise : IO.Promise (Except IO.Error α)) : IO α := do
  match ← IO.wait promise.result? with
  | some (.ok a) => return a
  | some (.error e) => throw e
  | none => throw (.userError "the operation was dropped")

/-- A time in whole milliseconds, at most some weeks. -/
def milliseconds (seconds : Binary64) : Nat :=
  let most := 0x80000000
  if seconds.isFinite then min (seconds.scaleBy 1000).truncate.toNat most else most

/-- The address that a host stands for. -/
def resolve (host : String) : IO Std.Net.IPv4Addr := do
  match Inet.parse? host with
  | some [a, b, c, d] => return ⟨#v[a, b, c, d]⟩
  | _ =>
    let found ← await (← DNS.getAddrInfo host "" 1)
    let first := found.toList.findSome? fun address => match address with
      | .v4 address => some address
      | .v6 _ => none
    match first with
    | some address => return address
    | none => throw (.userError "Name or service not known")

/-- Receive a packet within a time. -/
def receiveWithin (handle : SystemSocket) (size : Nat) : IO (Except Fault (List UInt8)) := do
  let packet ← handle.socket.recv (UInt64.ofNat size)
  let timer ← Timer.mk (UInt64.ofNat (milliseconds (← handle.timeout.get))) false
  let tick ← timer.next
  let answers := packet.result?.map some
  let silence := tick.result?.map fun _ => none
  match ← IO.waitAny [answers, silence] with
  | some (some (.ok (bytes, _))) =>
    timer.stop
    return .ok bytes.data.toList
  | some (some (.error e)) =>
    timer.stop
    return .error (faultOf e)
  | _ =>
    handle.socket.cancelRecv
    return .error (.system none "timed out" true)

/-- The sockets of the operating system.  They are closed when nothing refers to them any more. -/
def sockets : SystemSockets IO SystemSocket where
  create := attempt do
    return ⟨← UDP.Socket.new, ← IO.mkRef 0⟩
  setTimeout handle seconds := do
    match Transport.limitFault? seconds with
    | some fault => return .error fault
    | none =>
      handle.timeout.set seconds
      return .ok ()
  connect handle host port := do
    match Transport.portFault? port with
    | some fault => return .error fault
    | none => attempt do
      handle.socket.connect (.v4 ⟨← resolve host, UInt16.ofNat port.toNat⟩)
  send handle packet := attempt do
    await (← handle.socket.send #[⟨packet.toArray⟩] none)
  receive handle size := receiveWithin handle size
  close _ := return ()

/-- Sleep, unless the clock refuses that. -/
def sleep (seconds : Binary64) : IO (Except Fault Unit) := do
  match Clock.system.sleepFault? seconds with
  | some fault => return .error fault
  | none =>
    IO.sleep (UInt32.ofNat (milliseconds seconds))
    return .ok ()

/-- The clock as log lines show it. -/
def now : IO String := do
  return (← Std.Time.PlainDateTime.now).format "uuuu-MM-dd HH:mm:ss"

/-- The world of the executable: records go to standard error. -/
def console (registry : IO.Ref Log.Registry) :
    CommandLine.Console IO (DatagramSocket SystemSocket) :=
  let log := fun record => do
    let text := (← registry.get).write (← now) record
    (← IO.getStderr).putStr text
  { world :=
      { transport := DatagramSocket.transport sockets log
        sleep := sleep
        cancel := none
        log := log }
    print := fun text => do
      let out ← IO.getStdout
      out.putStr text
      out.flush
    report := fun text => do (← IO.getStderr).putStr text
    setUpLog := fun level debugged => registry.modify (·.setup level debugged) }

/-- A console whose program keeps a browser. -/
def withBrowser (c : CommandLine.Console IO S) : CommandLine.Console (StateT Browser IO) S where
  world := c.world.lift
  print text := c.print text
  report text := c.report text
  setUpLog level debugged := c.setUpLog level debugged

/-- Where the executable finds its configuration. -/
def sources : IO Configuration.Sources := do
  let file ← try pure (some (← IO.FS.readFile "config.json")) catch _ => pure none
  return { file, environment := (← System.osEnviron).toList }

/-- What is said when there is no configuration. -/
def failureText : Configuration.Failure → String
  | .badFile _ => "config.json holds no JSON\n"
  | .noMembers => "config.json holds no object\n"
  | .badVariable why => "the variable of the section " ++ why.sectionName ++ " holds no JSON\n"
  | .invalid complaints =>
    String.join (complaints.map fun c => "bad value for " ++ ".".intercalate c.path ++ "\n")

/-- The most transitions of one listing. -/
def limit : Nat := Nat.pow 2 64

/-- Run the program with its arguments; its exit code. -/
def run (arguments : List String) : IO UInt32 := do
  let standardError ← IO.getStderr
  match Configuration.load (← sources) with
  | .error failure =>
    standardError.putStr (failureText failure)
    return 1
  | .ok configuration =>
    let program := withBrowser (console (← IO.mkRef Log.Registry.initial))
    let (result, _) ← (CommandLine.run program configuration arguments limit).run {}
    match result with
    | .ok code => return UInt32.ofNat code
    | .error fault =>
      standardError.putStr (fault.message ++ "\n")
      return 1

end ServerBrowser.Executable

/-- The entry point. -/
def main (arguments : List String) : IO UInt32 :=
  ServerBrowser.Executable.run arguments
