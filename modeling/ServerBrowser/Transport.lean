import ServerBrowser.Address.Master
import ServerBrowser.Binary64
import ServerBrowser.Log

/-!
# What a query needs from the world

A query reaches the world through operations that are given to it: a transport that carries
packets, a way to wait, a signal that cancels, and a log.  All of them run in a monad that the query
does not know, so the same query runs over real sockets and over a scripted world.

An operation that can fail answers with `Except Fault`; a failure is a value like any other.
-/

namespace ServerBrowser

/-- Packets to and from one server, over sockets of type `S`. -/
structure Transport (m : Type → Type) (S : Type) where
  /-- A socket for a server, with the longest time to wait for an answer. -/
  connect : MasterAddress → Binary64 → m (Except Fault S)
  send : S → List UInt8 → m (Except Fault Unit)
  receive : S → m (Except Fault (List UInt8))
  close : S → m Unit

/-- A signal that, once set, asks a query to stop. -/
structure CancelSignal (m : Type → Type) where
  isSet : m Bool
  /-- Wait for a time, or until the signal is set; whether it is set. -/
  wait : Binary64 → m (Except Fault Bool)

/-- The world around a query. -/
structure Surroundings (m : Type → Type) (S : Type) where
  transport : Transport m S
  sleep : Binary64 → m (Except Fault Unit)
  cancel : Option (CancelSignal m)
  log : Log.Record → m Unit

variable {m n : Type → Type} {S : Type}

/-- The same signal for a monad with more in it. -/
def CancelSignal.lift [MonadLiftT m n] (signal : CancelSignal m) : CancelSignal n where
  isSet := monadLift signal.isSet
  wait time := monadLift (signal.wait time)

/-- The same transport for a monad with more in it. -/
def Transport.lift [MonadLiftT m n] (transport : Transport m S) : Transport n S where
  connect address timeout := monadLift (transport.connect address timeout)
  send socket packet := monadLift (transport.send socket packet)
  receive socket := monadLift (transport.receive socket)
  close socket := monadLift (transport.close socket)

/-- The same world for a monad with more in it. -/
def Surroundings.lift [MonadLiftT m n] (world : Surroundings m S) : Surroundings n S where
  transport := world.transport.lift
  sleep time := monadLift (world.sleep time)
  cancel := world.cancel.map CancelSignal.lift
  log record := monadLift (world.log record)

/-- The same world without a signal that cancels. -/
def Surroundings.uncancelled (world : Surroundings m S) : Surroundings m S :=
  { world with cancel := none }

end ServerBrowser
