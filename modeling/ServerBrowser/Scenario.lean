import ServerBrowser.Browser
import ServerBrowser.Scenario.Event
import ServerBrowser.Transport.Clock
import ServerBrowser.Transport.Datagram

/-!
# Scenarios

A scenario is a world without a network: it answers every operation as a function of what has
happened so far.  A query that runs in a scenario leaves behind its history, and the history is the
only state there is.

Two transports are made from a scenario.  The direct one hands the scenario's answers on as they
are; the other one is that of datagram sockets over the scenario as an operating system, which
refuses time limits and ports as a system does.  Hosts are refused where the scenario says so;
`encoding` has it refuse them as a system does.

Delays are noted and not waited for.  The clock that keeps them is a patient one where nothing else
is said; over the clock of a system (`timed`) a delay that is too large is refused.
-/

namespace ServerBrowser

/-- A world, as a function of the history.  An operation is asked about after its event is noted,
so the last event says which socket it is about. -/
structure Scenario where
  /-- Making a system socket. -/
  create : History → Except Fault Unit
  /-- Connecting a socket. -/
  connect : History → Except Fault Unit
  send : History → Except Fault Unit
  receive : History → Except Fault (List UInt8)
  /-- Whether the cancel signal is set. -/
  isCancelled : History → Bool

namespace Scenario

/-- The monad of scenarios: the browser and the history. -/
abbrev Play := StateT Browser (StateM History)

variable {m : Type → Type} [Monad m] [MonadStateOf History m]

/-- Note an event. -/
def note (event : Event) : m Unit :=
  modifyThe History (· ++ [event])

/-- Note an event and ask about it. -/
def perform (event : Event) (answer : History → α) : m α := do
  note event
  return answer (← getThe History)

/-- Note what was received. -/
def noteReceived (socket : Nat) (result : Except Fault (List UInt8)) :
    m (Except Fault (List UInt8)) := do
  match result with
  | .ok packet => note (.received socket packet)
  | .error _ => pure ()
  return result

/-- The transport that hands the answers of a scenario on. -/
def direct (scenario : Scenario) : Transport m Nat where
  connect master timeout := do
    let socket := (← getThe History).socketCount
    let result ← perform (.opened socket master timeout) scenario.connect
    return result.map fun _ => socket
  send socket packet := perform (.sent socket packet) scenario.send
  receive socket := do
    noteReceived socket (← perform (.awaited socket none) scenario.receive)
  close socket := note (.closed socket)

/-- A scenario as an operating system. -/
def system (scenario : Scenario) : SystemSockets m Nat where
  create := do
    let socket := (← getThe History).socketCount
    let result ← perform (.created socket) scenario.create
    return result.map fun _ => socket
  setTimeout socket seconds :=
    perform (.limited socket seconds) fun _ =>
      match Transport.limitFault? seconds with
      | some fault => .error fault
      | none => .ok ()
  connect socket host port :=
    perform (.connected socket host port) fun history =>
      match Transport.portFault? port with
      | some fault => .error fault
      | none => scenario.connect history
  send socket packet := perform (.sent socket packet) scenario.send
  receive socket size := do
    noteReceived socket (← perform (.awaited socket (some size)) scenario.receive)
  close socket := note (.closed socket)

/-- The scenario of a system that looks up the hosts of its sockets: `encodes` says for which names
beyond ASCII it has a form, and a name that cannot be looked up is refused. -/
def encoding (scenario : Scenario) (encodes : String → Bool) : Scenario where
  create := scenario.create
  connect history :=
    match history.getLast? with
    | some (.connected _ host _) =>
      match Transport.hostFault? encodes host with
      | some fault => .error fault
      | none => scenario.connect history
    | _ => scenario.connect history
  send := scenario.send
  receive := scenario.receive
  isCancelled := scenario.isCancelled

/-- The log of a scenario. -/
def log (record : Log.Record) : m Unit :=
  note (.logged record)

/-- Datagram sockets over a scenario. -/
def datagram (scenario : Scenario) : Transport m (DatagramSocket Nat) :=
  DatagramSocket.transport scenario.system log

/-- The cancel signal of a scenario. -/
def signal (scenario : Scenario) (clock : Clock := .patient) : CancelSignal m where
  isSet := perform .checked scenario.isCancelled
  wait seconds := perform (.waited seconds) fun history =>
    clock.wait seconds (scenario.isCancelled history)

/-- The world of a scenario over one of its transports, with its cancel signal or without. -/
def surroundings (scenario : Scenario) (transport : Transport m S) (cancellable : Bool)
    (clock : Clock := .patient) : Surroundings m S where
  transport := transport
  sleep seconds := perform (.slept seconds) fun _ => clock.sleep seconds
  cancel := if cancellable then some (scenario.signal clock) else none
  log := log

/-- The world of a scenario in which the clock of a system keeps the delays. -/
abbrev timed (scenario : Scenario) (transport : Transport m S) (cancellable : Bool) :
    Surroundings m S :=
  scenario.surroundings transport cancellable .system

end Scenario

end ServerBrowser
