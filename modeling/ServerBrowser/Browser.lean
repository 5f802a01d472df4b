import ServerBrowser.Filter.Batch
import ServerBrowser.Listing

/-!
# Browsers

A browser gathers filters and asks a master server for all servers that match one of them.  The
filters are cut into batches that fit into a packet, and each batch is listed on its own, one after
the other, over a socket of its own.

While a query runs no filters can be added.  The end of any query makes them addable again, also
that of a query which a listener runs inside another one.
-/

namespace ServerBrowser

/-- The filters of a browser, and whether a query of its runs. -/
structure Browser where
  filters : List String := []
  querying : Bool := false
deriving DecidableEq, Repr

/-- Whom a browser asks, and how. -/
structure Client where
  master : MasterAddress
  settings : Settings

/-- The client of the given address, or of the address in the settings where none is given or an
empty text. -/
def Client.ofSettings (settings : Settings) : Option MasterAddress → Client
  | none | some (.text "") => ⟨settings.master, settings⟩
  | some master => ⟨master, settings⟩

/-- An app id as a caller may give it. -/
inductive AppId where
  | whole (n : Int)
  | real (x : Binary64)
  | text (s : String)
deriving DecidableEq, Repr

/-- The number of an app id.  A binary number loses its fraction. -/
def AppId.number : AppId → Except Fault Int
  | whole n => .ok n
  | real x => if x.isFinite then .ok x.truncate else .error (.notFinite x.isNaN)
  | text s => (Text.readInt s).mapError Fault.numeral

namespace Browser

/-! ## adding filters -/

/-- Add tokens. -/
def addFilters (tokens : List String) (browser : Browser) : Except Fault Browser :=
  if browser.querying then .error .filtersLocked
  else .ok { browser with filters := browser.filters ++ tokens }

/-- Add the token of a key and a value. -/
def addFilter (key : String) (value : Json) (browser : Browser) : Except Fault Browser :=
  browser.addFilters [Filter.ofValue key value]

/-- The tokens of app ids, up to the first that is no number, and the fault of that one. -/
def appIdTokens : List AppId → List String × Except Fault Unit
  | [] => ([], .ok ())
  | id :: rest =>
    match id.number with
    | .error fault => ([], .error fault)
    | .ok n =>
      let (tokens, result) := appIdTokens rest
      (Filter.token "appid" (toString n) :: tokens, result)

/-- Add a token for each app id.  The tokens before an id that is no number stay. -/
def addAppIds (ids : List AppId) (browser : Browser) : Except Fault Unit × Browser :=
  if browser.querying then (.error .filtersLocked, browser)
  else
    let (tokens, result) := appIdTokens ids
    (result, { browser with filters := browser.filters ++ tokens })

/-! ## querying -/

/-- Say something about a query. -/
def record (text : String) : Log.Record :=
  ⟨Log.browserLogger, Log.info, text⟩

variable {m : Type → Type} [Monad m] {S : Type}

/-- List batch after batch, from the given number on, and add up the servers. -/
def listBatches (client : Client) (world : Surroundings m S) (listener : Listener m)
    (limit : Nat) : Nat → Int → List (List String) → m (Except Fault Int)
  | _, total, [] => return .ok total
  | number, total, batch :: rest => do
    (Filter.batchRemarks client.settings.filterBudget batch).forM world.log
    world.log (record s!"Starting filter batch {number} ({batch.length} filters)")
    let listing : Listing := ⟨client.master, batch, client.settings⟩
    match ← listing.run world listener limit with
    | .error fault => return .error fault
    | .ok state =>
      listBatches client world listener limit (number + 1) (total + state.serversDelivered) rest

/-- Ask for all servers that match one of the filters of these batches; how many were delivered.
The first fault ends the query, and pages that were delivered before stay delivered.  What could not
be cut into batches ends it after those that could. -/
def queryBatches [MonadStateOf Browser m] (client : Client) (world : Surroundings m S)
    (listener : Listener m) (limit : Nat) (batches : List (List String))
    (refusal : Option Fault) : m (Except Fault Int) := do
  modifyThe Browser fun b => { b with querying := true }
  let result ← listBatches client world listener limit 1 0 batches
  modifyThe Browser fun b => { b with querying := false }
  match result, refusal with
  | .error fault, _ | .ok _, some fault => return .error fault
  | .ok total, none =>
    world.log (record s!"Master query finished: {total} server(s)")
    return .ok total

/-- Ask for all servers that match one of the filters of the browser; how many were delivered. -/
def query [MonadStateOf Browser m] (client : Client) (world : Surroundings m S)
    (listener : Listener m) (limit : Nat) : m (Except Fault Int) := do
  let browser ← getThe Browser
  queryBatches client world listener limit
    (Filter.batches client.settings.filterBudget browser.filters) none

/-- The whole of a query: a lock, the listings of all batches, and a word of the log. -/
theorem query_eq [MonadStateOf Browser m] (client : Client) (world : Surroundings m S)
    (listener : Listener m) (limit : Nat) :
    query client world listener limit = (do
      let browser ← getThe Browser
      modifyThe Browser fun b => { b with querying := true }
      let result ← listBatches client world listener limit 1 0
        (Filter.batches client.settings.filterBudget browser.filters)
      modifyThe Browser fun b => { b with querying := false }
      match result with
      | .error fault => return .error fault
      | .ok total =>
        world.log (record s!"Master query finished: {total} server(s)")
        return .ok total) := by
  rw [query]
  refine bind_congr fun browser => ?_
  rw [queryBatches]
  refine bind_congr fun _ => bind_congr fun result => bind_congr fun _ => ?_
  cases result <;> rfl

/-- A listener that keeps all servers. -/
def collector : Listener (StateT (List ServerAddress) m) := fun page => do
  modify (· ++ page)
  return .ok page

/-- Ask for all servers that match one of the filters, in one list. -/
def queryAll [MonadStateOf Browser m] (client : Client) (world : Surroundings m S) (limit : Nat) :
    m (Except Fault (List ServerAddress)) := do
  let (result, servers) ← (query client world.lift collector limit).run []
  return result.map fun _ => servers

end Browser

end ServerBrowser
