import ServerBrowser.Scenario

/-!
# Behaviours of listeners

A listener in a scenario acts on each page: it may fail, change the page, set the cancel signal, add
filters or run a query of its own on the same browser.  A behaviour says what it does as a function
of what has happened before.

A query within a query is listened to by the same behaviour.  `listener` takes how deep queries may
be nested.
-/

namespace ServerBrowser

/-- One thing that a listener does. -/
inductive Action where
  | fail (fault : Fault)
  | clear
  /-- Take the last server off the page. -/
  | pop
  | reverse
  | append (server : ServerAddress)
  | cancel
  | addFilters (tokens : List String)
  | query
deriving DecidableEq, Repr

/-- What a listener does with each page. -/
abbrev Behaviour := History → List Action

namespace Behaviour

variable {m : Type → Type} [Monad m] [MonadStateOf History m] [MonadStateOf Browser m]

/-- Add filters to the browser. -/
def addFilters (tokens : List String) : m (Except Fault Unit) := do
  match (← getThe Browser).addFilters tokens with
  | .error fault => return .error fault
  | .ok browser =>
    set browser
    return .ok ()

/-- Perform actions on a page, one after the other, up to the first that fails; `ask` runs a
query. -/
def perform (ask : m (Except Fault Int)) : List Action → Listener m
  | [], page => return .ok page
  | action :: rest, page =>
    match action with
    | .fail fault => return .error fault
    | .clear => perform ask rest []
    | .pop =>
      if page.isEmpty then return .error (.raised .index "pop from empty list")
      else perform ask rest page.dropLast
    | .reverse => perform ask rest page.reverse
    | .append server => perform ask rest (page ++ [server])
    | .cancel => do
      Scenario.note .cancelled
      perform ask rest page
    | .addFilters tokens => do
      match ← addFilters tokens with
      | .error fault => return .error fault
      | .ok () => perform ask rest page
    | .query => do
      match ← ask with
      | .error fault => return .error fault
      | .ok total =>
        Scenario.note (.nested total)
        perform ask rest page

/-- The listener of a behaviour.  `ask` runs a query with a listener; at depth zero there is none
to be run. -/
def listener (behaviour : Behaviour) (ask : Listener m → m (Except Fault Int)) :
    Nat → Listener m
  | 0, page => do
    let actions := behaviour (← getThe History)
    Scenario.note (.paged page)
    perform (pure (.error .exhausted)) actions page
  | depth + 1, page => do
    let actions := behaviour (← getThe History)
    Scenario.note (.paged page)
    perform (ask (listener behaviour ask depth)) actions page

/-- The behaviour of a row of actions for each call, counted from a number of events on. -/
def ofCalls (calls : List (List Action)) (start : Nat) : Behaviour :=
  fun history => (calls[History.pageCount (history.drop start)]?).getD []

end Behaviour

end ServerBrowser
