import ServerBrowser.Text.Hex
import ServerBrowser.Transport

/-!
# Datagram sockets

A datagram socket is a socket of the operating system, connected to one server, with a time limit
for answers.  It says in the log what it sends and receives, and tells every failure of the
operating system as a failure of the transport; a failure of another kind is told as it is.

A socket is a value.  Closing it gives the closed socket back, which refuses to send and to receive
and may be closed again.
-/

namespace ServerBrowser

/-- The sockets of an operating system, with handles of type `H`. -/
structure SystemSockets (m : Type → Type) (H : Type) where
  create : m (Except Fault H)
  setTimeout : H → Binary64 → m (Except Fault Unit)
  connect : H → String → Int → m (Except Fault Unit)
  send : H → List UInt8 → m (Except Fault Unit)
  receive : H → Nat → m (Except Fault (List UInt8))
  close : H → m Unit

/-- A socket for the datagrams of one server. -/
structure DatagramSocket (H : Type) where
  host : String
  port : Int
  timeout : Binary64
  /-- The socket of the operating system, until it is closed. -/
  handle : Option H
deriving DecidableEq, Repr

namespace DatagramSocket

/-- Enough for any datagram. -/
def receiveLimit : Nat := 65535

/-- The most bytes of a packet that the log shows. -/
def dumpLimit : Nat := 256

variable {m : Type → Type} [Monad m] {H : Type}

/-- Whether a socket is closed. -/
def isClosed (socket : DatagramSocket H) : Bool :=
  socket.handle.isNone

/-- What the log says about a packet. -/
def packetRecord (direction : String) (socket : DatagramSocket H) (packet : List UInt8) :
    Log.Record :=
  ⟨Log.socketLogger, Log.debug,
    s!"UDP {direction} {socket.host}:{socket.port} - {packet.length} bytes: " ++
      Text.hexDump packet (some dumpLimit)⟩

/-- Set the time limit and the server of a fresh socket. -/
def prepare (system : SystemSockets m H) (handle : H) (host : String) (port : Int)
    (timeout : Binary64) : m (Except Fault Unit) := do
  match ← system.setTimeout handle timeout with
  | .error fault => return .error fault
  | .ok () => system.connect handle host port

/-- Open a socket for a server.  When the operating system fails, the socket it made is closed. -/
def connect (system : SystemSockets m H) (log : Log.Record → m Unit) (address : MasterAddress)
    (timeout : Binary64) : m (Except Fault (DatagramSocket H)) := do
  match address.split with
  | .error fault => return .error (.badMaster fault)
  | .ok (host, port) =>
    match ← system.create with
    | .error fault =>
      return .error (if fault.isSystem then .notOpened host port fault else fault)
    | .ok handle =>
      match ← prepare system handle host port timeout with
      | .error fault =>
        if fault.isSystem then
          system.close handle
          return .error (.notOpened host port fault)
        else return .error fault
      | .ok () =>
        log ⟨Log.socketLogger, Log.debug,
          s!"Opened UDP socket to {host}:{port} (timeout {timeout.fixed 1}s)"⟩
        return .ok ⟨host, port, timeout, some handle⟩

/-- Send a packet. -/
def send (system : SystemSockets m H) (log : Log.Record → m Unit) (socket : DatagramSocket H)
    (packet : List UInt8) : m (Except Fault Unit) := do
  match socket.handle with
  | none => return .error .sendAfterClose
  | some handle =>
    log (packetRecord "TX to" socket packet)
    match ← system.send handle packet with
    | .error fault => return .error (if fault.isSystem then .sendFailed fault else fault)
    | .ok () => return .ok ()

/-- The fault of a failed receive. -/
def receiveFault (timeout : Binary64) (fault : Fault) : Fault :=
  if fault.isTimeout then .timedOut timeout fault
  else if fault.isSystem then .receiveFailed fault
  else fault

/-- Receive a packet. -/
def receive (system : SystemSockets m H) (log : Log.Record → m Unit)
    (socket : DatagramSocket H) : m (Except Fault (List UInt8)) := do
  match socket.handle with
  | none => return .error .receiveAfterClose
  | some handle =>
    match ← system.receive handle receiveLimit with
    | .error fault => return .error (receiveFault socket.timeout fault)
    | .ok packet =>
      log (packetRecord "RX from" socket packet)
      return .ok packet

/-- Close a socket; a closed one stays as it is. -/
def close (system : SystemSockets m H) (socket : DatagramSocket H) : m (DatagramSocket H) := do
  match socket.handle with
  | none => return socket
  | some handle =>
    system.close handle
    return { socket with handle := none }

/-- Datagram sockets as a transport. -/
def transport (system : SystemSockets m H) (log : Log.Record → m Unit) :
    Transport m (DatagramSocket H) where
  connect := connect system log
  send := send system log
  receive := receive system log
  close socket := discard (close system socket)

end DatagramSocket

end ServerBrowser
