import ServerBrowser.Query
import ServerBrowser.Response
import ServerBrowser.Settings
import ServerBrowser.Transport

/-!
# Listings

A listing asks a master server for the servers that match one batch of filters, page by page.  It is
a machine that goes from state to state:

```
start → awaiting → delivering → done
                     ↓    ↑
                   continuing            any → failed
```

The first query asks from the null address.  Every decoded page goes to a listener; unless it was
the last one, the next query asks for what follows its last server.  Only these continuations are
tried again, and only after a failure of the transport, as often as the settings say and each after
a delay.

A fault of the family of failed queries moves the machine to `failed`; any other fault leaves the
step.  The listener hands back the page as it leaves it, and it is that page which is counted and
continued from.
-/

namespace ServerBrowser

/-- Who is given the pages: gets a page and hands it back as it leaves it. -/
abbrev Listener (m : Type → Type) := List ServerAddress → m (Except Fault (List ServerAddress))

/-- One listing: whom it asks, for which filters, and how. -/
structure Listing where
  master : MasterAddress
  filters : List String
  settings : Settings

namespace Listing

/-- Where a listing stands. -/
inductive Phase where
  | start
  | awaiting
  | delivering
  | continuing
  | done
  | failed
deriving DecidableEq, Repr

/-- The state of a listing. -/
structure State where
  phase : Phase := .start
  /-- The server that the listing goes on after. -/
  cursor : ServerAddress := .null
  /-- How often the continuation at hand may still be tried again. -/
  retriesLeft : Int := 0
  /-- The page decoded last. -/
  page : Page := ⟨[], false⟩
  pagesDelivered : Int := 0
  serversDelivered : Int := 0
  lastFault : Option Fault := none
deriving DecidableEq, Repr

/-- Whether a listing is over. -/
def State.isFinished (state : State) : Bool :=
  state.phase = .done || state.phase = .failed

/-- The state that a listing starts in. -/
def initial (listing : Listing) : State :=
  { retriesLeft := listing.settings.retryCount }

/-- The query for what follows a server. -/
def query (listing : Listing) (cursor : ServerAddress) : Query :=
  ⟨cursor.text, listing.filters, listing.settings.region⟩

/-- Say something about a listing. -/
def record (level : Int) (text : String) : Log.Record :=
  ⟨Log.listingLogger, level, text⟩

variable {m : Type → Type} [Monad m] {S : Type}

/-! ## transitions -/

/-- Stop where the query is cancelled. -/
def checkCancelled (world : Surroundings m S) : ExceptT Fault m Unit := do
  match world.cancel with
  | none => return
  | some signal => if ← signal.isSet then throw .queryCancelled

/-- Wait before a continuation; a signal that is set while waiting stops the query.  A delay that is
refused leaves the step like any fault. -/
def pause (listing : Listing) (world : Surroundings m S) : ExceptT Fault m Unit := do
  match world.cancel with
  | none => ExceptT.mk (world.sleep listing.settings.retryDelay)
  | some signal =>
    if ← ExceptT.mk (signal.wait listing.settings.retryDelay) then throw .queryCancelled

/-- Send the query for what follows a server. -/
def ask (listing : Listing) (world : Surroundings m S) (socket : S) (cursor : ServerAddress) :
    ExceptT Fault m Unit := do
  let packet ← ExceptT.mk (pure (listing.query cursor).toBytes)
  ExceptT.mk (world.transport.send socket packet)

/-- Decode a packet, which is then to be delivered. -/
def decode (world : Surroundings m S) (state : State) (packet : List UInt8) :
    ExceptT Fault m State := do
  (Response.remarks packet).forM fun remark => ExceptT.lift (world.log remark)
  let page ← ExceptT.mk (pure (Response.parse packet))
  world.log (record Log.debug
    (s!"Page of {page.servers.length} server(s) after {state.cursor}, end=" ++
      if page.isLast then "True" else "False"))
  return { state with phase := .delivering, page }

/-- Send the first query. -/
def begin (listing : Listing) (world : Surroundings m S) (socket : S) (state : State) :
    ExceptT Fault m State := do
  checkCancelled world
  listing.ask world socket .null
  return { state with phase := .awaiting, cursor := .null }

/-- Receive the first page. -/
def await (world : Surroundings m S) (socket : S) (state : State) : ExceptT Fault m State := do
  let packet ← ExceptT.mk (world.transport.receive socket)
  decode world state packet

/-- The state after a page was delivered and handed back. -/
def delivered (listing : Listing) (state : State) (left : List ServerAddress) :
    Except Fault State :=
  let state := { state with
    pagesDelivered := state.pagesDelivered + 1
    serversDelivered := state.serversDelivered + left.length }
  if state.page.isLast then .ok { state with phase := .done }
  else match left.getLast? with
    | none => .error .pageEmptied
    | some last =>
      .ok { state with
        phase := .continuing
        cursor := last
        retriesLeft := listing.settings.retryCount
        lastFault := none }

/-- Hand a page to the listener. -/
def deliver (listing : Listing) (listener : Listener m) (state : State) :
    ExceptT Fault m State := do
  match ← ExceptT.lift (listener state.page.servers) with
  | .error fault => throw (.listenerFailed fault)
  | .ok left => ExceptT.mk (pure (listing.delivered state left))

/-- Ask for what follows the cursor, and receive the answer. -/
def exchange (listing : Listing) (world : Surroundings m S) (socket : S) (state : State) :
    ExceptT Fault m (List UInt8) := do
  listing.ask world socket state.cursor
  ExceptT.mk (world.transport.receive socket)

/-- Try a continuation.  After a failure of the transport it may be tried again. -/
def proceed (listing : Listing) (world : Surroundings m S) (socket : S) (state : State) :
    ExceptT Fault m State := do
  listing.pause world
  checkCancelled world
  match ← ExceptT.lift (listing.exchange world socket state).run with
  | .ok packet => decode world state packet
  | .error fault =>
    if fault.isTransport ∧ 0 < state.retriesLeft then
      world.log (record Log.warning
        (s!"Continuation after {state.cursor} failed ({fault.message}), " ++
          s!"{state.retriesLeft} retries left"))
      return { state with retriesLeft := state.retriesLeft - 1, lastFault := some fault }
    else throw fault

/-- What a listing does in the phase it is in. -/
def transition (listing : Listing) (world : Surroundings m S) (listener : Listener m) (socket : S)
    (state : State) : ExceptT Fault m State :=
  match state.phase with
  | .start => listing.begin world socket state
  | .awaiting => await world socket state
  | .delivering => listing.deliver listener state
  | .continuing => listing.proceed world socket state
  | .done | .failed => return state

/-- The state after a transition that ended with a fault. -/
def State.afterFault (state : State) (fault : Fault) : Except Fault State :=
  if fault.inFamily then .ok { state with phase := .failed, lastFault := some fault }
  else .error fault

/-- One step of a listing.  A fault of the family ends the listing, any other one leaves the
step. -/
def step (listing : Listing) (world : Surroundings m S) (listener : Listener m) (socket : S)
    (state : State) : m (Except Fault State) := do
  match ← (listing.transition world listener socket state).run with
  | .ok next => return .ok next
  | .error fault => return state.afterFault fault

/-! ## whole listings -/

/-- Step until the listing is over, at most so many times. -/
def steps (listing : Listing) (world : Surroundings m S) (listener : Listener m) (socket : S) :
    Nat → State → m (Except Fault State)
  | limit, state => do
    if state.isFinished then return .ok state
    else match limit with
      | 0 => return .error .exhausted
      | limit + 1 =>
        match ← listing.step world listener socket state with
        | .error fault => return .error fault
        | .ok next => listing.steps world listener socket limit next

/-- What a listing that is over gives: its state, or the fault that ended it. -/
def outcome (state : State) : Except Fault State :=
  if state.phase = .failed then .error (state.lastFault.getD (.raised .query "listing failed"))
  else .ok state

/-- What the log says at the end of a listing. -/
def endRecord (listing : Listing) (state : State) : Log.Record :=
  match outcome state with
  | .error fault =>
    record Log.error
      (s!"Query to {listing.master.display} failed after {state.pagesDelivered} page(s): " ++
        fault.message)
  | .ok state =>
    record Log.info
      (s!"Query to {listing.master.display} complete: {state.serversDelivered} server(s) in " ++
        s!"{state.pagesDelivered} page(s)")

/-- Run a listing over a socket of its own, which is closed in every case. -/
def run (listing : Listing) (world : Surroundings m S) (listener : Listener m) (limit : Nat) :
    m (Except Fault State) := do
  world.log (record Log.info
    s!"Querying {listing.master.display} with {listing.filters.length} filter(s)")
  match ← world.transport.connect listing.master listing.settings.timeout with
  | .error fault => return .error fault
  | .ok socket =>
    let result ← listing.steps world listener socket limit listing.initial
    world.transport.close socket
    match result with
    | .error fault => return .error fault
    | .ok state =>
      world.log (listing.endRecord state)
      return outcome state

end Listing

end ServerBrowser
