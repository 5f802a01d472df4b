import ServerBrowser.Proofs.Transport.Opening

/-!
# ServerBrowser.Proofs.Transport.Calls

What becomes of an open datagram socket under calls in whatever order.  A socket is a machine of two
states, and `Call.Goes` lists its transitions with all that the system is asked for on the way:

```
open    send, receive     open     the system socket sends, or is waited for
open    close, leave      closed   the system socket is closed
closed  send, receive     closed   refused, and nothing happens
closed  close, leave      closed   nothing happens
```

A failure of the system is told as one of the transport and changes no state.  Each call goes as the
machine does (`Call.perform_goes`), so every row of calls does (`performAll_runs`), and the system
socket is closed once, by the first call that closes (`performAll_machine`).
-/

namespace ServerBrowser

open Scenario

namespace DatagramSocket

/-- A call on a socket. -/
inductive Call where
  | send (packet : List UInt8)
  | receive
  | close
  /-- Enter the context of the socket, which is the socket itself. -/
  | enter
  /-- Leave the context of the socket. -/
  | leave
deriving DecidableEq

/-- What a call gives: a fault, or the packet of a call that receives one. -/
abbrev Answer := Except Fault (Option (List UInt8))

/-- Whether a call closes the socket. -/
def Call.closes : Call → Bool
  | .close | .leave => true
  | _ => false

/-- Perform a call on a socket: what it gives, and the socket that it leaves. -/
def Call.perform (scenario : Scenario) (socket : DatagramSocket Nat) :
    Call → Play (Answer × DatagramSocket Nat)
  | .send packet => do
    let result ← socket.send scenario.system Scenario.log packet
    return (result.map fun _ => none, socket)
  | .receive => do
    let result ← socket.receive scenario.system Scenario.log
    return (result.map some, socket)
  | .close | .leave => do
    let socket ← socket.close scenario.system
    return (.ok none, socket)
  | .enter => return (.ok none, socket)

/-- Perform calls one after the other: what each gives, and the socket that the last one leaves. -/
def performAll (scenario : Scenario) :
    DatagramSocket Nat → List Call → Play (List Answer × DatagramSocket Nat)
  | socket, [] => return ([], socket)
  | socket, call :: calls => do
    let (answer, socket) ← call.perform scenario socket
    let (answers, socket) ← performAll scenario socket calls
    return (answer :: answers, socket)

/-! ## the machine -/

/-- A socket in one of its states. -/
def inState (socket : DatagramSocket Nat) (closed : Bool) : DatagramSocket Nat :=
  if closed then { socket with handle := none } else socket

/-- Whether a fault is told as one of the transport, with that very fault as its cause. -/
def Tells (told fault : Fault) : Prop :=
  told.isTransport = true ∧ told.cause? = some fault

/-- The transitions of a socket, from whether it is closed to whether it is: what a call gives, and
what happens on the way. -/
inductive Call.Goes (scenario : Scenario) (socket : DatagramSocket Nat) (handle : Nat)
    (history : History) : Bool → Call → Answer → Bool → History → Prop
  | sent {packet : List UInt8}
    (answer : scenario.send (history ++ socket.sending handle packet) = .ok ()) :
    Goes scenario socket handle history false (.send packet) (.ok none) false
      (socket.sending handle packet)
  | unsent {packet : List UInt8} {fault told : Fault}
    (answer : scenario.send (history ++ socket.sending handle packet) = .error fault)
    (tells : Tells told fault) :
    Goes scenario socket handle history false (.send packet) (.error told) false
      (socket.sending handle packet)
  | received {packet : List UInt8}
    (answer : scenario.receive (history ++ [.awaited handle (some receiveLimit)]) = .ok packet) :
    Goes scenario socket handle history false .receive (.ok (some packet)) false
      [.awaited handle (some receiveLimit), .received handle packet,
        .logged (packetRecord "RX from" socket packet)]
  | lost {fault told : Fault}
    (answer : scenario.receive (history ++ [.awaited handle (some receiveLimit)]) = .error fault)
    (tells : Tells told fault) :
    Goes scenario socket handle history false .receive (.error told) false
      [.awaited handle (some receiveLimit)]
  | closed {call : Call} (closes : call.closes = true) :
    Goes scenario socket handle history false call (.ok none) true [.closed handle]
  | entered {isClosed : Bool} :
    Goes scenario socket handle history isClosed .enter (.ok none) isClosed []
  | sendRefused {packet : List UInt8} {told : Fault} (transport : told.isTransport = true) :
    Goes scenario socket handle history true (.send packet) (.error told) true []
  | receiveRefused {told : Fault} (transport : told.isTransport = true) :
    Goes scenario socket handle history true .receive (.error told) true []
  | closedBefore {call : Call} (closes : call.closes = true) :
    Goes scenario socket handle history true call (.ok none) true []

/-- A row of transitions. -/
inductive Runs (scenario : Scenario) (socket : DatagramSocket Nat) (handle : Nat) :
    History → Bool → List Call → List Answer → Bool → History → Prop
  | nil {history : History} {isClosed : Bool} :
    Runs scenario socket handle history isClosed [] [] isClosed []
  | cons {history since more : History} {before between after : Bool} {call : Call}
    {calls : List Call} {answer : Answer} {answers : List Answer}
    (first : call.Goes scenario socket handle history before answer between since)
    (rest : Runs scenario socket handle (history ++ since) between calls answers after more) :
    Runs scenario socket handle history before (call :: calls) (answer :: answers) after
      (since ++ more)

section Machine

variable {scenario : Scenario} {socket : DatagramSocket Nat} {handle : Nat} {browser : Browser}
  {history history' since : History} {before after : Bool} {call : Call} {calls : List Call}
  {answer : Answer} {answers : List Answer}

@[simp] theorem isClosed_inState (h : socket.handle = some handle) (closed : Bool) :
    (socket.inState closed).isClosed = closed := by
  cases closed <;> simp [inState, isClosed, h]

/-- A call that closes leaves a closed socket, and every other call the state as it is. -/
theorem Call.Goes.state_eq
    (h : call.Goes scenario socket handle history before answer after since) :
    after = (before || call.closes) := by
  cases h <;> simp_all [closes]

/-- The system socket is closed exactly where the socket becomes closed. -/
theorem Call.Goes.count_closed
    (h : call.Goes scenario socket handle history before answer after since) :
    since.count (.closed handle) + before.toNat = after.toNat := by
  cases h <;> simp [sending]

theorem Runs.state_eq (h : Runs scenario socket handle history before calls answers after since) :
    after = (before || calls.any Call.closes) := by
  induction h with
  | nil => simp
  | cons first rest ih => rw [ih, first.state_eq, List.any_cons, Bool.or_assoc]

/-- **The system socket is closed at most once,** whatever the calls are: exactly where the socket
was open and becomes closed. -/
theorem Runs.count_closed
    (h : Runs scenario socket handle history before calls answers after since) :
    since.count (.closed handle) + before.toNat = after.toNat := by
  induction h with
  | nil => simp
  | cons first rest ih =>
      have hfirst := first.count_closed
      rw [List.count_append]
      omega

/-! ## the calls of a socket -/

theorem tells_receiveFault (timeout : Binary64) {fault : Fault} (h : fault.isSystem = true) :
    Tells (receiveFault timeout fault) fault := by
  simp only [receiveFault, h, if_true]
  split <;> exact ⟨rfl, rfl⟩

/-- A closed socket does nothing with a call but refuse it or let it pass. -/
theorem perform_closed (socket : DatagramSocket Nat) (call : Call) (browser : Browser)
    (history : History) :
    ∃ answer, call.perform scenario (socket.inState true) browser history =
        (((answer, socket.inState true), browser), history ++ []) ∧
      call.Goes scenario socket handle history true answer true [] := by
  rw [List.append_nil]
  cases call with
  | send packet => exact ⟨.error .sendAfterClose, rfl, .sendRefused rfl⟩
  | receive => exact ⟨.error .receiveAfterClose, rfl, .receiveRefused rfl⟩
  | close => exact ⟨.ok none, rfl, .closedBefore rfl⟩
  | enter => exact ⟨.ok none, rfl, .entered⟩
  | leave => exact ⟨.ok none, rfl, .closedBefore rfl⟩

/-- One more call goes on from what the calls before it leave. -/
theorem performAll_concat {left right : DatagramSocket Nat} {browser' browser'' : Browser}
    {history'' : History}
    (hfront : performAll scenario socket calls browser history =
      (((answers, left), browser'), history'))
    (hlast : call.perform scenario left browser' history' =
      (((answer, right), browser''), history'')) :
    performAll scenario socket (calls ++ [call]) browser history =
      (((answers ++ [answer], right), browser''), history'') := by
  induction calls generalizing socket browser history answers with
  | nil =>
      cases hfront
      exact play_bind hlast
  | cons first calls ih =>
      obtain ⟨⟨given, next⟩, between, history₁, hfirst⟩ :=
        exists_play (first.perform scenario socket) browser history
      obtain ⟨⟨rest, last⟩, ending, history₂, hrest⟩ :=
        exists_play (performAll scenario next calls) between history₁
      have hrow : performAll scenario socket (first :: calls) browser history =
          (((given :: rest, last), ending), history₂) :=
        (play_bind hfirst).trans (play_bind hrest)
      cases hrow.symm.trans hfront
      exact (play_bind hfirst).trans (play_bind (ih hrest))

variable (hsend : ∀ history fault, scenario.send history = .error fault → fault.isSystem = true)
  (hreceive : ∀ history fault, scenario.receive history = .error fault → fault.isSystem = true)

include hsend hreceive

theorem perform_open (hhandle : socket.handle = some handle) (call : Call) (browser : Browser)
    (history : History) :
    ∃ answer after since, call.perform scenario socket browser history =
        (((answer, socket.inState after), browser), history ++ since) ∧
      call.Goes scenario socket handle history false answer after since := by
  cases call with
  | send packet =>
      have hplay : (Call.send packet).perform scenario socket browser history = _ :=
        play_bind (send_play hhandle packet)
      cases hanswer : scenario.send (history ++ socket.sending handle packet) with
      | ok =>
          rw [hanswer] at hplay
          exact ⟨_, false, _, hplay, .sent hanswer⟩
      | error fault =>
          have hsystem := hsend _ _ hanswer
          rw [hanswer] at hplay
          refine ⟨_, false, _, hplay, .unsent hanswer ?_⟩
          simp only [hsystem, if_true]
          exact ⟨rfl, rfl⟩
  | receive =>
      have hplay : receive (scenario.system : SystemSockets Play Nat) Scenario.log socket browser
          history = _ := receive_play hhandle
      cases hanswer : scenario.receive (history ++ [.awaited handle (some receiveLimit)]) with
      | ok packet =>
          rw [hanswer] at hplay
          exact ⟨_, false, _, play_bind hplay, .received hanswer⟩
      | error fault =>
          rw [hanswer] at hplay
          exact ⟨_, false, _, play_bind hplay,
            .lost hanswer (tells_receiveFault _ (hreceive _ _ hanswer))⟩
  | close => exact ⟨_, true, _, play_bind (close_play hhandle), .closed rfl⟩
  | enter => exact ⟨.ok none, false, [], by rw [List.append_nil]; rfl, .entered⟩
  | leave => exact ⟨_, true, _, play_bind (close_play hhandle), .closed rfl⟩

/-- **Each call goes as the machine does.** -/
theorem Call.perform_goes (hhandle : socket.handle = some handle) (before : Bool) (call : Call)
    (browser : Browser) (history : History) :
    ∃ answer after since, call.perform scenario (socket.inState before) browser history =
        (((answer, socket.inState after), browser), history ++ since) ∧
      call.Goes scenario socket handle history before answer after since := by
  cases before with
  | false => exact perform_open hsend hreceive hhandle call browser history
  | true =>
      obtain ⟨answer, hplay, hgoes⟩ := perform_closed socket call browser history
      exact ⟨answer, true, [], hplay, hgoes⟩

/-- Every row of calls is a row of transitions. -/
theorem performAll_runs (hhandle : socket.handle = some handle) (calls : List Call)
    (before : Bool) (browser : Browser) (history : History) :
    ∃ answers after since, performAll scenario (socket.inState before) calls browser history =
        (((answers, socket.inState after), browser), history ++ since) ∧
      Runs scenario socket handle history before calls answers after since := by
  induction calls generalizing before history with
  | nil => exact ⟨[], before, [], by rw [List.append_nil]; rfl, .nil⟩
  | cons call calls ih =>
      obtain ⟨answer, between, since, hfirst, hgoes⟩ :=
        call.perform_goes hsend hreceive hhandle before browser history
      obtain ⟨answers, after, more, hrest, hruns⟩ := ih between (history ++ since)
      refine ⟨answer :: answers, after, since ++ more, ?_, .cons hgoes hruns⟩
      rw [← List.append_assoc]
      exact (play_bind hfirst).trans (play_bind hrest)

end Machine

/-! ## the calls of an opened socket -/

/-- A socket that was opened holds the system socket that was made for it, and did not close it. -/
theorem handle_of_connect {scenario : Scenario} {master : MasterAddress} {timeout : Binary64}
    {socket : DatagramSocket Nat} {browser browser' : Browser} {history history' : History}
    (hopen : connect (scenario.system : SystemSockets Play Nat) Scenario.log master timeout browser
      history = ((.ok socket, browser'), history')) :
    socket.handle = some history.socketCount ∧ ∃ opening, history' = history ++ opening ∧
      opening.count (.closed history.socketCount) = 0 := by
  obtain ⟨result, opening, hplay, hopens⟩ := connect_opens scenario master timeout browser history
  cases hplay.symm.trans hopen
  cases hopens
  exact ⟨rfl, _, rfl, by simp⟩

/-- **An opened socket is a machine of two states.**  After any row of calls it is closed where one
of them closes it, and its system socket has been closed once then, and not at all before; the next
call goes as the machine does.

An open socket sends and receives the very bytes, and survives the failures of the system, which it
tells as those of the transport.  A closed one asks the system for nothing. -/
theorem performAll_machine (scenario : Scenario)
    (hsend : ∀ history fault, scenario.send history = .error fault → fault.isSystem = true)
    (hreceive : ∀ history fault, scenario.receive history = .error fault → fault.isSystem = true)
    {master : MasterAddress} {timeout : Binary64} {socket : DatagramSocket Nat}
    {browser browser' : Browser} {history history' : History}
    (hopen : connect (scenario.system : SystemSockets Play Nat) Scenario.log master timeout browser
      history = ((.ok socket, browser'), history')) (front : List Call) (call : Call) :
    ∃ opening answers closed since answer closed' more,
      history' = history ++ opening ∧
      performAll scenario socket front browser' history' =
        (((answers, socket.inState closed), browser'), history' ++ since) ∧
      performAll scenario socket (front ++ [call]) browser' history' =
        (((answers ++ [answer], socket.inState closed'), browser'),
          history' ++ since ++ more) ∧
      call.Goes scenario socket history.socketCount (history' ++ since) closed answer closed'
        more ∧
      (socket.inState closed).isClosed = closed ∧
      (closed = true ↔ ∃ earlier ∈ front, earlier.closes = true) ∧
      (opening ++ since).count (.closed history.socketCount) = closed.toNat := by
  obtain ⟨hhandle, opening, rfl, hunclosed⟩ := handle_of_connect hopen
  obtain ⟨answers, closed, since, hfront, hruns⟩ :=
    performAll_runs hsend hreceive hhandle front false browser' (history ++ opening)
  obtain ⟨answer, closed', more, hcall, hgoes⟩ :=
    call.perform_goes hsend hreceive hhandle closed browser' (history ++ opening ++ since)
  have hstate : closed = front.any Call.closes := by simpa using hruns.state_eq
  have hcount := hruns.count_closed
  refine ⟨opening, answers, closed, since, answer, closed', more, rfl, hfront,
    performAll_concat hfront hcall, hgoes, isClosed_inState hhandle closed, ?_, ?_⟩
  · rw [hstate, List.any_eq_true]
  · rw [List.count_append, hunclosed]
    simpa using hcount

/-- A system whose sockets cannot send their first packet, and receive nothing in time. -/
def unsteady : Scenario where
  create _ := .ok ()
  connect _ := .ok ()
  send history :=
    if history.sendCount 0 = 1 then .error (.ofNumber 101 "Network is unreachable") else .ok ()
  receive _ := .error (.system none "timed out" true)
  isCancelled _ := false

/-- The socket is left open by a failed send and by a receive in vain, and then closed twice. -/
theorem performAll_machine_unsteady :
    (∀ history fault, unsteady.send history = .error fault → fault.isSystem = true) ∧
      (∀ history fault, unsteady.receive history = .error fault → fault.isSystem = true) ∧
      ∃ socket history',
        connect (unsteady.system : SystemSockets Play Nat) Scenario.log (.pair "10.0.0.1" 27011) 1
          {} [] = ((.ok socket, {}), history') ∧
        ∃ opening answers closed since answer closed' more,
          history' = [] ++ opening ∧
          performAll unsteady socket [.enter, .send [49], .receive, .leave, .close] {} history' =
            (((answers, socket.inState closed), {}), history' ++ since) ∧
          performAll unsteady socket ([.enter, .send [49], .receive, .leave, .close] ++ [.receive])
            {} history' =
              (((answers ++ [answer], socket.inState closed'), {}), history' ++ since ++ more) ∧
          Call.receive.Goes unsteady socket 0 (history' ++ since) closed answer closed' more ∧
          (socket.inState closed).isClosed = closed ∧
          (closed = true ↔
            ∃ earlier ∈ [Call.enter, .send [49], .receive, .leave, .close],
              earlier.closes = true) ∧
          (opening ++ since).count (.closed 0) = closed.toNat := by
  have hsend : ∀ history fault, unsteady.send history = .error fault → fault.isSystem = true := by
    intro history fault h
    simp only [unsteady] at h
    split at h <;> cases h
    rfl
  have hreceive : ∀ history fault, unsteady.receive history = .error fault →
      fault.isSystem = true := by
    rintro history fault ⟨⟩
    rfl
  have hopen : connect (unsteady.system : SystemSockets Play Nat) Scenario.log
      (.pair "10.0.0.1" 27011) 1 {} [] = ((.ok ⟨"10.0.0.1", 27011, 1, some 0⟩, {}),
        [.created 0, .limited 0 1, .connected 0 "10.0.0.1" 27011,
          .logged (openRecord "10.0.0.1" 27011 1)]) := rfl
  exact ⟨hsend, hreceive, _, _, hopen, performAll_machine unsteady hsend hreceive hopen _ _⟩

end DatagramSocket

end ServerBrowser
