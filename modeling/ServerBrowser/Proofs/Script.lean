import ServerBrowser.Proofs.Scenario
import ServerBrowser.Scenario.Script

/-!
# ServerBrowser.Proofs.Script

What a row of scripts still has to say about a socket.  The scenario of a row of scripts counts the
operations in the history; `Script.Ahead` turns the counts around: it names the entries that are
left.  A send takes the first of the faults that are left, and waiting for a packet the first of the
packets; nothing else takes any.
-/

namespace ServerBrowser.Script

variable {scripts : List Script} {ending : Ending} {cancel : CancelScript} {start socket : Nat}
  {history more : History} {sends : List (Option Fault)}
  {receives : List (Except Fault (List UInt8))} {packet : List UInt8}

/-- The entries that scripts have left for a socket after what has happened. -/
structure Ahead (scripts : List Script) (socket : Nat) (history : History)
    (sends : List (Option Fault)) (receives : List (Except Fault (List UInt8))) : Prop where
  sends : ((scripts[socket]?.map Script.sends).getD []).drop (history.sendCount socket) = sends
  receives : ((scripts[socket]?.map Script.receives).getD []).drop (history.awaitCount socket) =
    receives

/-- Whether an event takes an entry of the script of a socket. -/
def takes (socket : Nat) : Event → Bool
  | .sent other _ | .awaited other _ => other = socket
  | _ => false

theorem sendCount_sent (history : History) (socket : Nat) (packet : List UInt8) :
    History.sendCount (history ++ [.sent socket packet]) socket = history.sendCount socket + 1 := by
  simp [History.sendCount]

theorem awaitCount_awaited (history : History) (socket : Nat) (size : Option Nat) :
    History.awaitCount (history ++ [.awaited socket size]) socket =
      history.awaitCount socket + 1 := by
  simp [History.awaitCount]

/-- How a row of scripts answers a send. -/
theorem send_scenario (scripts : List Script) (ending : Ending) (cancel : CancelScript)
    (start : Nat) (history : History) :
    (scenario scripts ending cancel start).send history =
      answer (((scripts[lastSocket history]?.map Script.sends).getD
        [])[history.sendCount (lastSocket history) - 1]?.join) :=
  rfl

/-- What a row of scripts gives where a packet is waited for. -/
theorem receive_scenario (scripts : List Script) (ending : Ending) (cancel : CancelScript)
    (start : Nat) (history : History) :
    (scenario scripts ending cancel start).receive history =
      ((scripts[lastSocket history]?.map Script.receives).getD
        [])[history.awaitCount (lastSocket history) - 1]?.getD (.error ending.noReceive) :=
  rfl

/-- The send that is asked about is answered by the first fault that is left. -/
theorem Ahead.send (h : Ahead scripts socket history sends receives) :
    (scenario scripts ending cancel start).send (history ++ [.sent socket packet]) =
      answer sends.head?.join := by
  have hlast : lastSocket (history ++ [.sent socket packet]) = socket := by simp [lastSocket]
  rw [send_scenario, hlast, sendCount_sent, Nat.add_sub_cancel, ← h.sends, List.head?_drop]

/-- The packet that is waited for is the first that is left. -/
theorem Ahead.receive (h : Ahead scripts socket history sends receives) :
    (scenario scripts ending cancel start).receive (history ++ [.awaited socket none]) =
      receives.head?.getD (.error ending.noReceive) := by
  have hlast : lastSocket (history ++ [.awaited socket none]) = socket := by simp [lastSocket]
  rw [receive_scenario, hlast, awaitCount_awaited, Nat.add_sub_cancel, ← h.receives,
    List.head?_drop]

/-- A send takes a fault that is left. -/
theorem Ahead.sent (h : Ahead scripts socket history sends receives) (packet : List UInt8) :
    Ahead scripts socket (history ++ [.sent socket packet]) sends.tail receives where
  sends := by rw [sendCount_sent, ← h.sends, List.tail_drop]
  receives := by
    rw [← h.receives]
    simp [History.awaitCount]

/-- Waiting for a packet takes one that is left. -/
theorem Ahead.awaited (h : Ahead scripts socket history sends receives) :
    Ahead scripts socket (history ++ [.awaited socket none]) sends receives.tail where
  sends := by
    rw [← h.sends]
    simp [History.sendCount]
  receives := by rw [awaitCount_awaited, ← h.receives, List.tail_drop]

/-- Other events take nothing. -/
theorem Ahead.append (h : Ahead scripts socket history sends receives)
    (hmore : ∀ event ∈ more, takes socket event = false) :
    Ahead scripts socket (history ++ more) sends receives := by
  have hsends : History.sendCount more socket = 0 := by
    rw [History.sendCount, List.countP_eq_zero]
    intro event hevent
    have htakes := hmore event hevent
    cases event <;> simp_all [takes]
  have hreceives : History.awaitCount more socket = 0 := by
    rw [History.awaitCount, List.countP_eq_zero]
    intro event hevent
    have htakes := hmore event hevent
    cases event <;> simp_all [takes]
  constructor
  · rw [← h.sends, History.sendCount, List.countP_append, ← History.sendCount,
      ← History.sendCount, hsends, Nat.add_zero]
  · rw [← h.receives, History.awaitCount, List.countP_append, ← History.awaitCount,
      ← History.awaitCount, hreceives, Nat.add_zero]

end ServerBrowser.Script
