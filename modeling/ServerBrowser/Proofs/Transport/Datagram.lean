import ServerBrowser.Proofs.Yields

/-!
# ServerBrowser.Proofs.Transport.Datagram

Datagram sockets over a scenario as an operating system: what an open one gives and does when it
sends, receives and is closed.  Whatever the system fails with, the sockets tell it as a fault of
the family of failed queries (`inFamily_datagram`).
-/

namespace ServerBrowser

open Scenario

/-- A transport that fails with faults of the family only, and receives whole packets. -/
structure Transport.InFamily {S : Type} (transport : Transport Play S) : Prop where
  send : ∀ socket packet,
    Yields (transport.send socket packet) (EndsInFamily fun _ => True)
  receive : ∀ socket, Yields (transport.receive socket)
    (EndsInFamily (·.length ≤ DatagramSocket.receiveLimit))

/-- Whether the faults of a scenario are those of an operating system, and its packets no longer
than what a socket asks for. -/
structure Scenario.OfSystem (scenario : Scenario) : Prop where
  create : ∀ history fault, scenario.create history = .error fault → fault.isSystem = true
  connect : ∀ history fault, scenario.connect history = .error fault → fault.isSystem = true
  send : ∀ history fault, scenario.send history = .error fault → fault.isSystem = true
  receive : ∀ history fault, scenario.receive history = .error fault → fault.isSystem = true
  size : ∀ history packet, scenario.receive history = .ok packet →
    packet.length ≤ DatagramSocket.receiveLimit

namespace DatagramSocket

variable {scenario : Scenario} {socket : DatagramSocket Nat} {handle : Nat} {browser : Browser}
  {history : History}

/-! ## what the operations do -/

/-- What happens when an open socket sends a packet. -/
def sending (socket : DatagramSocket Nat) (handle : Nat) (packet : List UInt8) : History :=
  [.logged (packetRecord "TX to" socket packet), .sent handle packet]

/-- Sending on an open socket asks the system to send that packet. -/
theorem send_play (h : socket.handle = some handle) (packet : List UInt8) :
    send (scenario.system : SystemSockets Play Nat) Scenario.log socket packet browser history =
      (((scenario.send (history ++ socket.sending handle packet)).mapError fun fault =>
        if fault.isSystem then .sendFailed fault else fault, browser),
        history ++ socket.sending handle packet) := by
  have hsent : (scenario.system : SystemSockets Play Nat).send handle packet browser
      (history ++ [.logged (packetRecord "TX to" socket packet)]) =
        ((scenario.send (history ++ socket.sending handle packet), browser),
          history ++ socket.sending handle packet) := by
    rw [sending, List.append_cons history _ [_]]
    rfl
  rw [send, h]
  refine (play_bind (log_play _)).trans ((play_bind hsent).trans ?_)
  cases scenario.send (history ++ socket.sending handle packet) <;> rfl

/-- Receiving on an open socket gives what the system receives. -/
theorem receive_play (h : socket.handle = some handle) :
    receive (scenario.system : SystemSockets Play Nat) Scenario.log socket browser history =
      match scenario.receive (history ++ [.awaited handle (some receiveLimit)]) with
      | .ok packet => ((.ok packet, browser), history ++ [.awaited handle (some receiveLimit),
          .received handle packet, .logged (packetRecord "RX from" socket packet)])
      | .error fault => ((.error (receiveFault socket.timeout fault), browser),
          history ++ [.awaited handle (some receiveLimit)]) := by
  have hreceived : (scenario.system : SystemSockets Play Nat).receive handle receiveLimit browser
      history = (noteReceived handle (scenario.receive
        (history ++ [.awaited handle (some receiveLimit)])) : Play _) browser
          (history ++ [.awaited handle (some receiveLimit)]) := rfl
  rw [receive, h]
  cases hanswer : scenario.receive (history ++ [.awaited handle (some receiveLimit)]) with
  | error fault =>
      rw [hanswer] at hreceived
      exact play_bind hreceived
  | ok packet =>
      rw [hanswer] at hreceived
      refine (play_bind hreceived).trans ?_
      show ((_, _), history ++ [.awaited handle (some receiveLimit)] ++ [.received handle packet] ++
        [.logged (packetRecord "RX from" socket packet)]) = ((_, _), _)
      rw [List.append_assoc, List.append_assoc]
      rfl

/-- Closing an open socket closes the system socket. -/
theorem close_play (h : socket.handle = some handle) :
    close (scenario.system : SystemSockets Play Nat) socket browser history =
      (({ socket with handle := none }, browser), history ++ [.closed handle]) := by
  rw [close, h]
  rfl

/-! ## what the operations fail with -/

theorem inFamily_receiveFault (timeout : Binary64) {fault : Fault} (h : fault.isSystem = true) :
    (receiveFault timeout fault).inFamily = true := by
  simp only [receiveFault, h, if_true]
  split <;> rfl

/-- The failures of a system are faults of the family when a datagram socket tells them. -/
theorem inFamily_datagram (h : scenario.OfSystem) :
    (scenario.datagram : Transport Play _).InFamily where
  send socket packet browser history := by
    show EndsInFamily _ (send (scenario.system : SystemSockets Play Nat) Scenario.log socket packet
      browser history).1.1
    cases hhandle : socket.handle with
    | none =>
        rw [send, hhandle]
        rfl
    | some handle =>
        rw [send_play hhandle]
        cases hanswer : scenario.send (history ++ socket.sending handle packet) with
        | ok => trivial
        | error fault =>
            show Fault.inFamily (if fault.isSystem then _ else fault) = true
            rw [if_pos (h.send _ _ hanswer)]
            rfl
  receive socket browser history := by
    show EndsInFamily _ (receive (scenario.system : SystemSockets Play Nat) Scenario.log socket
      browser history).1.1
    cases hhandle : socket.handle with
    | none =>
        rw [receive, hhandle]
        rfl
    | some handle =>
        rw [receive_play hhandle]
        cases hanswer : scenario.receive (history ++ [.awaited handle (some receiveLimit)]) with
        | ok packet => exact h.size _ _ hanswer
        | error fault => exact inFamily_receiveFault socket.timeout (h.receive _ _ hanswer)

end DatagramSocket

end ServerBrowser
