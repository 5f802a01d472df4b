import ServerBrowser.Address
import ServerBrowser.Address.Master
import ServerBrowser.Log

/-!
# Events of a scenario

All that a query does to the world, and all that the world does to it, is a row of events in the
order in which they happen: the history.  Sockets are numbered in the order in which they are made.
-/

namespace ServerBrowser

/-- One thing that happens. -/
inductive Event where
  /-- A transport was asked for a socket. -/
  | opened (socket : Nat) (master : MasterAddress) (timeout : Binary64)
  /-- A system was asked for a socket. -/
  | created (socket : Nat)
  | limited (socket : Nat) (seconds : Binary64)
  | connected (socket : Nat) (host : String) (port : Int)
  | sent (socket : Nat) (packet : List UInt8)
  /-- A packet is waited for, at most so many bytes of it where the caller says. -/
  | awaited (socket : Nat) (size : Option Nat)
  | received (socket : Nat) (packet : List UInt8)
  | closed (socket : Nat)
  | slept (seconds : Binary64)
  /-- The cancel signal was waited for. -/
  | waited (seconds : Binary64)
  /-- The cancel signal was looked at. -/
  | checked
  /-- A listener set the cancel signal. -/
  | cancelled
  /-- A page was handed to a listener. -/
  | paged (servers : List ServerAddress)
  /-- A query that a listener ran is over. -/
  | nested (total : Int)
  | logged (record : Log.Record)
  /-- The log was set up: the level of the root, and the loggers set to the lowest level. -/
  | logSetUp (level : Int) (debugged : List String)
  /-- A text went to standard output. -/
  | printed (text : String)
  /-- A text went to standard error. -/
  | reported (text : String)
deriving DecidableEq, Repr

/-- What has happened so far, the oldest event first. -/
abbrev History := List Event

namespace History

/-- How many sockets were asked for. -/
def socketCount (history : History) : Nat :=
  history.countP fun event => match event with
    | .opened .. | .created _ => true
    | _ => false

/-- How many packets were sent on a socket. -/
def sendCount (history : History) (socket : Nat) : Nat :=
  history.countP fun event => match event with
    | .sent other _ => other = socket
    | _ => false

/-- How often a packet was waited for on a socket. -/
def awaitCount (history : History) (socket : Nat) : Nat :=
  history.countP fun event => match event with
    | .awaited other _ => other = socket
    | _ => false

/-- How often the cancel signal was looked at. -/
def checkCount (history : History) : Nat :=
  history.countP (· == .checked)

/-- How often the cancel signal was waited for. -/
def waitCount (history : History) : Nat :=
  history.countP fun event => match event with
    | .waited _ => true
    | _ => false

/-- How many pages were handed to listeners. -/
def pageCount (history : History) : Nat :=
  history.countP fun event => match event with
    | .paged _ => true
    | _ => false

/-- What is on standard output. -/
def output (history : History) : String :=
  String.join (history.filterMap fun event => match event with
    | .printed text => some text
    | _ => none)

end History

end ServerBrowser
