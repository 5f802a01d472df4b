import ServerBrowser.Scenario

/-!
# Scripts

A script says in advance what happens on one socket: whether connecting it fails, which sends fail,
and what is received.  Scripts in a row make a scenario: the n-th socket follows the n-th script,
and the n-th operation on it the n-th entry.  Where a script ends, sends succeed and nothing more
is received.

A script for the cancel signal says when it becomes set.
-/

namespace ServerBrowser

/-- What happens on one socket. -/
structure Script where
  /-- The fault of connecting it. -/
  opening : Option Fault := none
  /-- The fault of each send, where it has one. -/
  sends : List (Option Fault) := []
  /-- What is received. -/
  receives : List (Except Fault (List UInt8)) := []

/-- When the cancel signal is set. -/
structure CancelScript where
  /-- From the beginning. -/
  initially : Bool := false
  /-- With the n-th look at it, where one is named. -/
  onCheck : Option Nat := none
  /-- With the n-th wait for it, where one is named. -/
  onWait : Option Nat := none

namespace Script

/-- The fault of an optional one. -/
def answer : Option Fault → Except Fault Unit
  | some fault => .error fault
  | none => .ok ()

/-- The socket that the last event of a history is about. -/
def lastSocket (history : History) : Nat :=
  match history.getLast? with
  | some (.opened socket ..) | some (.connected socket ..) | some (.sent socket _)
  | some (.awaited socket _) => socket
  | _ => 0

/-- What happens where a row of scripts has no script for a socket, or where a script's receives
are used up. -/
structure Ending where
  noScript : Option Fault
  noReceive : Fault

/-- The end of scripts that a transport follows as they are. -/
def Ending.direct : Ending :=
  ⟨some (.raised .transport "no more sockets"), .raised .transport "no more responses"⟩

/-- The end of scripts that an operating system follows: nothing is received in time. -/
def Ending.system : Ending :=
  ⟨none, .system none "timed out" true⟩

/-- Whether a number of times is reached, where one is named. -/
def reached (count : Nat) : Option Nat → Bool
  | some n => 0 < n && n ≤ count
  | none => false

/-- Whether the cancel signal is set after what has happened since it was made. -/
def isCancelled (script : CancelScript) (since : History) : Bool :=
  script.initially || since.contains .cancelled || reached since.checkCount script.onCheck ||
    reached since.waitCount script.onWait

/-- The scenario of a row of scripts.  The cancel signal is as old as the given number of
events. -/
def scenario (scripts : List Script) (ending : Ending) (cancel : CancelScript := {})
    (start : Nat := 0) : Scenario where
  create _ := .ok ()
  connect history :=
    match scripts[lastSocket history]? with
    | some script => answer script.opening
    | none => answer ending.noScript
  send history :=
    let socket := lastSocket history
    let faults := (scripts[socket]?.map Script.sends).getD []
    answer (faults[history.sendCount socket - 1]?.join)
  receive history :=
    let socket := lastSocket history
    let packets := (scripts[socket]?.map Script.receives).getD []
    packets[history.awaitCount socket - 1]?.getD (.error ending.noReceive)
  isCancelled history := isCancelled cancel (history.drop start)

end Script

end ServerBrowser
