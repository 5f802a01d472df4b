import ServerBrowser.Proofs.Listing.Frame
import ServerBrowser.Proofs.Listing.Run
import ServerBrowser.Proofs.Response
import ServerBrowser.Proofs.Script

/-!
# ServerBrowser.Proofs.Listing.Losses

Attempts that are lost.  A `Loss` says how: the packet cannot be sent, or no answer arrives.  It has
its entries in a script, and it leaves a block of events in a history.  `insertLosses` puts such
blocks into a history, one for each loss, before the attempts that get an answer.

A listing that continues steps once for each loss, and each time comes back to where it was, except
that a retry is used up (`steps_lost`); then it steps on with the answer (`step_answered`).
-/

namespace ServerBrowser

open Scenario

/-- How an attempt is lost. -/
inductive Loss where
  | unsent (fault : Fault)
  | unanswered (fault : Fault)

namespace Loss

/-- The fault of a loss. -/
def fault : Loss → Fault
  | unsent fault | unanswered fault => fault

/-- Its entry among the sends of a script. -/
def send : Loss → Option Fault
  | unsent fault => some fault
  | unanswered _ => none

/-- Its entries among what a script lets a socket receive. -/
def receives : Loss → List (Except Fault (List UInt8))
  | unsent _ => []
  | unanswered fault => [.error fault]

/-- What it leaves in a history: a delay, the packet, and where that is sent, the wait for an
answer. -/
def events (socket : Nat) (delay : Binary64) (packet : List UInt8) : Loss → History
  | unsent _ => [.slept delay, .sent socket packet]
  | unanswered _ => [.slept delay, .sent socket packet, .awaited socket none]

end Loss

namespace History

/-- A history without the words of the log. -/
def unlogged (history : History) : History :=
  history.filter fun event => match event with
    | .logged _ => false
    | _ => true

/-- What has happened apart from a listing over a socket. -/
def apart (socket : Nat) (history : History) : History :=
  history.filter fun event => !event.isOwn socket

/-- The delay and the packet of an attempt over a socket that starts with an event. -/
def attempt? (socket : Nat) (event : Event) (rest : History) : Option (Binary64 × List UInt8) :=
  match event, rest.head? with
  | .slept delay, some (.sent other packet) => if other = socket then some (delay, packet) else none
  | _, _ => none

/-- A history with losses put in: before each attempt over a socket a block for each of its losses,
which sends the packet of that attempt. -/
def insertLosses (socket : Nat) : List (List Loss) → History → History
  | _, [] => []
  | losses, event :: rest =>
    match attempt? socket event rest with
    | some (delay, packet) =>
      (losses.headD []).flatMap (Loss.events socket delay packet) ++
        event :: insertLosses socket losses.tail rest
    | none => event :: insertLosses socket losses rest

/-- The pages that were handed to listeners. -/
def pages (history : History) : List (List ServerAddress) :=
  history.filterMap fun event => match event with
    | .paged page => some page
    | _ => none

variable {socket : Nat} {history history' more front rest : History} {losses : List (List Loss)}
  {event : Event} {packet : List UInt8}

@[simp] theorem unlogged_nil : unlogged [] = [] := rfl

@[simp] theorem unlogged_append (history more : History) :
    unlogged (history ++ more) = unlogged history ++ unlogged more :=
  List.filter_append ..

theorem unlogged_logged (records : List Log.Record) : unlogged (records.map .logged) = [] := by
  simp [unlogged]

@[simp] theorem apart_append (socket : Nat) (history more : History) :
    apart socket (history ++ more) = apart socket history ++ apart socket more :=
  List.filter_append ..

theorem Own.apart (h : more.Own socket) : more.apart socket = [] := by
  rw [History.apart, List.filter_eq_nil_iff]
  intro event hevent
  simp [h event hevent]

/-- Pages are nothing that a listing does over its socket. -/
theorem pageCount_apart (socket : Nat) (history : History) :
    pageCount (history.apart socket) = history.pageCount := by
  rw [apart, pageCount, List.countP_filter, pageCount]
  refine List.countP_congr fun event _ => ?_
  cases event <;> simp [Event.isOwn]

/-- Pages are no words of the log. -/
theorem pages_unlogged (history : History) : pages history.unlogged = pages history := by
  rw [unlogged, pages, List.filterMap_filter, pages]
  congr 1
  funext event
  cases event <;> rfl

/-- Events about no socket, or about another one, take no entry of a script. -/
theorem takes_of_ne (h : event.socket? ≠ some socket) : Script.takes socket event = false := by
  cases event <;> simp_all [Script.takes, Event.socket?]

/-! ## putting losses in -/

theorem insertLosses_cons (h : attempt? socket event rest = none) :
    insertLosses socket losses (event :: rest) = event :: insertLosses socket losses rest := by
  rw [insertLosses, h]

theorem insertLosses_attempt (socket : Nat) (delay : Binary64) (packet : List UInt8)
    (lost : List Loss) (losses : List (List Loss)) (rest : History) :
    insertLosses socket (lost :: losses) (.slept delay :: .sent socket packet :: rest) =
      lost.flatMap (Loss.events socket delay packet) ++
        .slept delay :: .sent socket packet :: insertLosses socket losses rest := by
  have hattempt : attempt? socket (.slept delay) (.sent socket packet :: rest) =
      some (delay, packet) := by
    simp [attempt?]
  have hnone : attempt? socket (.sent socket packet) rest = none := rfl
  rw [insertLosses, hattempt]
  simp only [List.headD_cons, List.tail_cons]
  rw [insertLosses_cons hnone]

/-- No attempt starts where no packet is sent over the socket next. -/
theorem attempt?_eq_none (h : ∀ packet, rest.head? ≠ some (.sent socket packet)) :
    attempt? socket event rest = none := by
  rw [attempt?.eq_def]
  split
  · rename_i delay other packet hnext
    have hother : other ≠ socket := by
      rintro rfl
      exact h packet hnext
    rw [if_neg hother]
  · rfl

/-- Nothing is put among events that are not about the socket. -/
theorem insertLosses_append (hfront : ∀ event ∈ front, event.socket? ≠ some socket)
    (hrest : ∀ packet, rest.head? ≠ some (.sent socket packet)) :
    insertLosses socket losses (front ++ rest) = front ++ insertLosses socket losses rest := by
  induction front with
  | nil => rfl
  | cons event front ih =>
      obtain ⟨hevent, hlater⟩ := List.forall_mem_cons.1 hfront
      have hunsent : ∀ packet, (front ++ rest).head? ≠ some (.sent socket packet) := by
        cases front with
        | nil => exact hrest
        | cons next front =>
            intro packet hnext
            obtain rfl : next = .sent socket packet := by simpa using hnext
            exact hlater (.sent socket packet) (by simp) rfl
      rw [List.cons_append, insertLosses_cons (attempt?_eq_none hunsent), ih hlater,
        List.cons_append]

/-- No loss hands on a page. -/
theorem pages_insertLosses (socket : Nat) (losses : List (List Loss)) (history : History) :
    pages (insertLosses socket losses history) = pages history := by
  induction history generalizing losses with
  | nil => rfl
  | cons event history ih =>
      have hblock (delay : Binary64) (packet : List UInt8) (lost : List Loss) :
          pages (lost.flatMap (Loss.events socket delay packet)) = [] := by
        rw [pages, List.filterMap_eq_nil_iff]
        intro other hother
        obtain ⟨loss, -, hloss⟩ := List.mem_flatMap.1 hother
        cases loss <;> simp [Loss.events] at hloss <;> grind
      have hcons (rest : History) : pages (event :: rest) = pages [event] ++ pages rest :=
        List.filterMap_append (l := [event]) ..
      rw [insertLosses]
      split
      · rw [pages, List.filterMap_append, ← pages, ← pages, hblock, List.nil_append, hcons, ih,
          ← hcons]
      · rw [hcons, ih, ← hcons]

/-- Nothing is put before the end of a socket. -/
theorem insertLosses_closed (socket closed : Nat) (losses : List (List Loss)) (history : History) :
    insertLosses socket losses (history ++ [.closed closed]) =
      insertLosses socket losses history ++ [.closed closed] := by
  induction history generalizing losses with
  | nil => rfl
  | cons event history ih =>
      have hsame : attempt? socket event (history ++ [.closed closed]) =
          attempt? socket event history := by
        cases history with
        | nil => cases event <;> rfl
        | cons next history => rfl
      rw [List.cons_append, insertLosses, hsame, insertLosses]
      split <;> simp [ih]

end History

namespace Listing

variable {listing : Listing} {scripts : List Script} {listener : Listener Play} {socket : Nat}
  {state : State} {browser : Browser} {history history' : History} {sends : List (Option Fault)}
  {receives : List (Except Fault (List UInt8))} {packet reply : List UInt8} {cursor : ServerAddress}

/-! ## attempts over a script -/

/-- The world of a row of scripts without a cancel signal. -/
abbrev scripted (scripts : List Script) : Surroundings Play Nat :=
  (Script.scenario scripts .direct).world false

/-- Decoding a packet leaves nothing but words of the log. -/
theorem unlogged_decodeEvents (state : State) (packet : List UInt8) :
    (decodeEvents state packet).unlogged = [] := by
  rw [decodeEvents, History.unlogged_append, History.unlogged_logged, List.nil_append]
  cases Response.parse packet with
  | ok page => exact History.unlogged_logged [_]
  | error fault => rfl

theorem ahead_decodeEvents (h : Script.Ahead scripts socket history sends receives) (state : State)
    (packet : List UInt8) :
    Script.Ahead scripts socket (history ++ decodeEvents state packet) sends receives := by
  refine h.append ?_
  intro event hevent
  have hown : event.isOwn (socket + 1) = true := own_decodeEvents state packet event hevent
  cases event <;> simp_all [Event.isOwn, Script.takes]

/-- Where the script has a fault for the packet, the attempt ends there. -/
theorem Exchanges.unsent {fault : Fault} {result : Except Fault (List UInt8)}
    (h : listing.Exchanges (Script.scenario scripts .direct) socket cursor history result history')
    (hahead : Script.Ahead scripts socket history (some fault :: sends) receives)
    (hquery : (listing.query cursor).toBytes = .ok packet) :
    result = .error fault ∧ history' = history ++ [.sent socket packet] ∧
      Script.Ahead scripts socket history' sends receives := by
  have hsend : (Script.scenario scripts .direct).send (history ++ [.sent socket packet]) =
      .error fault := hahead.send
  cases h with
  | unasked asks =>
      cases asks with
      | unwritten query => cases query.symm.trans hquery
      | unsent query answer =>
          cases query.symm.trans hquery
          cases answer.symm.trans hsend
          exact ⟨rfl, rfl, hahead.sent _⟩
  | asked asks receives =>
      cases asks with
      | sent query answer =>
          cases query.symm.trans hquery
          cases answer.symm.trans hsend

/-- What an answer leaves after the wait for it. -/
def arrived (socket : Nat) : Except Fault (List UInt8) → History
  | .ok packet => [.received socket packet]
  | .error _ => []

/-- Where the packet can be sent, what comes of the attempt is the next entry. -/
theorem Exchanges.replied {result : Except Fault (List UInt8)}
    (h : listing.Exchanges (Script.scenario scripts .direct) socket cursor history result history')
    (hahead : Script.Ahead scripts socket history sends receives)
    (hsends : sends.head?.join = none) (hquery : (listing.query cursor).toBytes = .ok packet) :
    result = receives.head?.getD (.error Script.Ending.direct.noReceive) ∧
      history' = history ++ [.sent socket packet, .awaited socket none] ++ arrived socket result ∧
      Script.Ahead scripts socket history' sends.tail receives.tail := by
  have hsend : (Script.scenario scripts .direct).send (history ++ [.sent socket packet]) =
      .ok () := by
    rw [hahead.send, hsends]
    rfl
  have hsent := hahead.sent packet
  have hreceive : (Script.scenario scripts .direct).receive
      (history ++ [.sent socket packet] ++ [.awaited socket none]) =
        receives.head?.getD (.error Script.Ending.direct.noReceive) := hsent.receive
  have hawaited := hsent.awaited
  cases h with
  | unasked asks =>
      cases asks with
      | unwritten query => cases query.symm.trans hquery
      | unsent query answer =>
          cases query.symm.trans hquery
          cases answer.symm.trans hsend
  | asked asks receives =>
      cases asks with
      | sent query answer =>
          cases query.symm.trans hquery
          cases receives with
          | lost answer => exact ⟨answer.symm.trans hreceive, by simp [arrived], hawaited⟩
          | arrived answer =>
              refine ⟨answer.symm.trans hreceive, by simp [arrived], hawaited.append ?_⟩
              simp [Script.takes]

/-! ## steps over a script -/

/-- The history in which an attempt asks has the entries that the one before has. -/
theorem ahead_readied (h : Script.Ahead scripts socket history sends receives) (listing : Listing) :
    Script.Ahead scripts socket (listing.readied false history) sends receives := by
  rw [readied_false]
  exact h.append (by simp [Script.takes])

/-- A listing sends its first packet where the script has no fault for it. -/
theorem step_begun (phase : state.phase = .start)
    (hahead : Script.Ahead scripts socket history sends receives)
    (hsends : sends.head?.join = none)
    (hquery : (listing.query .null).toBytes = .ok packet) (listener : Listener Play)
    (browser : Browser) :
    listing.step (scripted scripts) listener socket state browser history =
        ((.ok { state with phase := .awaiting, cursor := .null }, browser),
          history ++ [.sent socket packet]) ∧
      Script.Ahead scripts socket (history ++ [.sent socket packet]) sends.tail receives := by
  obtain ⟨result, browser', history', hmove, hstep⟩ := move_step listing
    (Script.scenario scripts .direct) false listener socket state browser history
  have hsend : (Script.scenario scripts .direct).send (history ++ [.sent socket packet]) =
      .ok () := by
    rw [hahead.send, hsends]
    rfl
  refine ⟨?_, hahead.sent packet⟩
  cases hmove with
  | awaitFailed other | awaited other | listenerFailed other | delivered other
  | pauseStopped other | proceedStopped other | retried other | proceedFailed other
  | proceeded other => cases phase.symm.trans other
  | rested ended => simp [State.isFinished, phase] at ended
  | beginStopped _ set => cases set
  | beginFailed _ _ asks =>
      rw [look, if_neg Bool.false_ne_true, List.append_nil] at asks
      cases asks with
      | unwritten query => cases query.symm.trans hquery
      | unsent query answer =>
          cases query.symm.trans hquery
          cases answer.symm.trans hsend
  | begun _ _ asks =>
      rw [look, if_neg Bool.false_ne_true, List.append_nil] at asks
      cases asks with
      | sent query answer =>
          cases query.symm.trans hquery
          exact hstep

/-- A listing that waits for its first page steps on with the answer that is next. -/
theorem step_awaited (phase : state.phase = .awaiting)
    (hahead : Script.Ahead scripts socket history sends (.ok reply :: receives))
    (listing : Listing) (listener : Listener Play) (browser : Browser) :
    ∃ more, listing.step (scripted scripts) listener socket state browser history =
        ((state.settle ((Response.parse reply).map state.withPage), browser), history ++ more) ∧
      more.unlogged = [.awaited socket none, .received socket reply] ∧
      more.Own socket ∧ Script.Ahead scripts socket (history ++ more) sends receives := by
  obtain ⟨result, browser', history', hmove, hstep⟩ := move_step listing
    (Script.scenario scripts .direct) false listener socket state browser history
  have hreceive : (Script.scenario scripts .direct).receive (history ++ [.awaited socket none]) =
      .ok reply := hahead.receive
  cases hmove with
  | beginStopped other | beginFailed other | begun other | listenerFailed other
  | delivered other | pauseStopped other | proceedStopped other | retried other
  | proceedFailed other | proceeded other => cases phase.symm.trans other
  | rested ended => simp [State.isFinished, phase] at ended
  | awaitFailed _ receives =>
      cases receives with
      | lost answer => cases answer.symm.trans hreceive
  | awaited _ receives =>
      cases receives with
      | arrived answer =>
          cases answer.symm.trans hreceive
          have hreceived : Script.Ahead scripts socket
              (history ++ [.awaited socket none] ++ [.received socket reply]) sends receives :=
            hahead.awaited.append (by simp [Script.takes])
          have hown : History.Own socket [.awaited socket none, .received socket reply] := by
            simp [History.Own, Event.isOwn]
          have hdecoded := ahead_decodeEvents hreceived state reply
          refine ⟨[.awaited socket none, .received socket reply] ++ decodeEvents state reply, ?_,
            ?_, hown.append (own_decodeEvents state reply), ?_⟩
          · simpa using hstep
          · rw [History.unlogged_append, unlogged_decodeEvents]
            rfl
          · simpa using hdecoded

/-- A listing that continues steps on with the answer that is next. -/
theorem step_answered (phase : state.phase = .continuing)
    (hahead : Script.Ahead scripts socket history sends (.ok reply :: receives))
    (hsends : sends.head?.join = none)
    (hquery : (listing.query state.cursor).toBytes = .ok packet) (listener : Listener Play)
    (browser : Browser) :
    ∃ more, listing.step (scripted scripts) listener socket state browser history =
        ((state.settle ((Response.parse reply).map state.withPage), browser), history ++ more) ∧
      more.unlogged = [.slept listing.settings.retryDelay, .sent socket packet,
        .awaited socket none, .received socket reply] ∧
      more.Own socket ∧ Script.Ahead scripts socket (history ++ more) sends.tail receives := by
  obtain ⟨result, browser', history', hmove, hstep⟩ := move_step listing
    (Script.scenario scripts .direct) false listener socket state browser history
  have hready := ahead_readied hahead listing
  cases hmove with
  | beginStopped other | beginFailed other | begun other | awaitFailed other | awaited other
  | listenerFailed other | delivered other => cases phase.symm.trans other
  | rested ended => simp [State.isFinished, phase] at ended
  | pauseStopped _ set | proceedStopped _ _ set => cases set
  | retried _ _ exchanges | proceedFailed _ _ exchanges =>
      obtain ⟨⟨⟩, -⟩ := exchanges.replied hready hsends hquery
  | proceeded _ _ exchanges =>
      obtain ⟨heq, rfl, hafter⟩ := exchanges.replied hready hsends hquery
      cases heq
      have hown : History.Own socket [.slept listing.settings.retryDelay, .sent socket packet,
          .awaited socket none, .received socket reply] := by
        simp [History.Own, Event.isOwn]
      have hdecoded := ahead_decodeEvents hafter state reply
      rw [readied_false] at hstep hdecoded
      refine ⟨[.slept listing.settings.retryDelay, .sent socket packet, .awaited socket none,
        .received socket reply] ++ decodeEvents state reply, ?_, ?_, ?_, ?_⟩
      · simpa [arrived] using hstep
      · rw [History.unlogged_append, unlogged_decodeEvents]
        rfl
      · exact hown.append (own_decodeEvents state reply)
      · simpa [arrived] using hdecoded

/-- A listing that continues over a script with nothing left asks in vain: it continues, or a
failure of the transport has ended it. -/
theorem step_usedUp (phase : state.phase = .continuing)
    (hahead : Script.Ahead scripts socket history sends []) (hsends : sends.head?.join = none)
    (hquery : (listing.query state.cursor).toBytes = .ok packet) (listener : Listener Play)
    (browser : Browser) :
    ∃ next more, listing.step (scripted scripts) listener socket state browser history =
        ((.ok next, browser), history ++ more) ∧
      more.unlogged = [.slept listing.settings.retryDelay, .sent socket packet,
        .awaited socket none] ∧
      (next = state.endedBy Script.Ending.direct.noReceive ∨
        next.phase = .continuing ∧ next.cursor = state.cursor ∧
          Script.Ahead scripts socket (history ++ more) sends.tail []) := by
  obtain ⟨result, browser', history', hmove, hstep⟩ := move_step listing
    (Script.scenario scripts .direct) false listener socket state browser history
  have hready := ahead_readied hahead listing
  cases hmove with
  | beginStopped other | beginFailed other | begun other | awaitFailed other | awaited other
  | listenerFailed other | delivered other => cases phase.symm.trans other
  | rested ended => simp [State.isFinished, phase] at ended
  | pauseStopped _ set | proceedStopped _ _ set => cases set
  | proceeded _ _ exchanges =>
      obtain ⟨⟨⟩, -⟩ := exchanges.replied hready hsends hquery
  | proceedFailed _ _ exchanges =>
      obtain ⟨heq, rfl, hafter⟩ := exchanges.replied hready hsends hquery
      cases heq
      have hended : state.afterFault Script.Ending.direct.noReceive =
          .ok (state.endedBy Script.Ending.direct.noReceive) := rfl
      rw [readied_false, hended] at hstep
      refine ⟨_, [.slept listing.settings.retryDelay, .sent socket packet, .awaited socket none],
        ?_, rfl, .inl rfl⟩
      simpa [arrived] using hstep
  | @retried fault _ _ _ exchanges _ _ =>
      obtain ⟨heq, rfl, hafter⟩ := exchanges.replied hready hsends hquery
      have hlogged : Script.Ahead scripts socket (_ ++ [.logged (retryRecord state fault)])
          sends.tail [] := hafter.append (by simp [Script.takes])
      cases heq
      rw [readied_false] at hstep hlogged
      refine ⟨{ state with
          retriesLeft := state.retriesLeft - 1
          lastFault := some Script.Ending.direct.noReceive },
        [.slept listing.settings.retryDelay, .sent socket packet, .awaited socket none,
          .logged (retryRecord state Script.Ending.direct.noReceive)], ?_, rfl,
        .inr ⟨phase, rfl, ?_⟩⟩
      · simpa [arrived] using hstep
      · simpa [arrived] using hlogged

/-- A listing that continues steps back to where it is with the loss that is next. -/
theorem step_lost (phase : state.phase = .continuing) {loss : Loss}
    (hahead : Script.Ahead scripts socket history (loss.send :: sends) (loss.receives ++ receives))
    (htransport : loss.fault.isTransport = true) (hleft : 0 < state.retriesLeft)
    (hquery : (listing.query state.cursor).toBytes = .ok packet) (listener : Listener Play)
    (browser : Browser) :
    ∃ more, listing.step (scripted scripts) listener socket state browser history =
        ((.ok { state with
          retriesLeft := state.retriesLeft - 1, lastFault := some loss.fault }, browser),
          history ++ more) ∧
      more.unlogged = loss.events socket listing.settings.retryDelay packet ∧
      more.Own socket ∧ Script.Ahead scripts socket (history ++ more) sends receives := by
  obtain ⟨result, browser', history', hmove, hstep⟩ := move_step listing
    (Script.scenario scripts .direct) false listener socket state browser history
  have hready := ahead_readied hahead listing
  -- What comes of the attempt, and the events that it leaves.
  have hlost : ∀ {result history'}, listing.Exchanges (Script.scenario scripts .direct) socket
      state.cursor (listing.readied false history) result history' →
      result = .error loss.fault ∧
        history' = history ++ loss.events socket listing.settings.retryDelay packet ∧
        Script.Ahead scripts socket history' sends receives := by
    intro result history' exchanges
    cases loss with
    | unsent fault =>
        obtain ⟨hresult, hhistory, hafter⟩ := exchanges.unsent hready hquery
        refine ⟨hresult, ?_, hafter⟩
        simp [hhistory, readied_false, Loss.events]
    | unanswered fault =>
        obtain ⟨rfl, hhistory, hafter⟩ := exchanges.replied hready rfl hquery
        refine ⟨rfl, ?_, hafter⟩
        simp [hhistory, readied_false, Loss.events, Loss.receives, arrived]
  have hown : History.Own socket (loss.events socket listing.settings.retryDelay packet) := by
    cases loss <;> simp [History.Own, Loss.events, Event.isOwn]
  cases hmove with
  | beginStopped other | beginFailed other | begun other | awaitFailed other | awaited other
  | listenerFailed other | delivered other => cases phase.symm.trans other
  | rested ended => simp [State.isFinished, phase] at ended
  | pauseStopped _ set | proceedStopped _ _ set => cases set
  | proceeded _ _ exchanges =>
      obtain ⟨⟨⟩, -⟩ := hlost exchanges
  | proceedFailed _ _ exchanges final =>
      obtain ⟨heq, -⟩ := hlost exchanges
      cases heq
      exact absurd ⟨htransport, hleft⟩ final
  | retried _ _ exchanges transport left =>
      obtain ⟨heq, rfl, hafter⟩ := hlost exchanges
      cases heq
      have hlogged : History.Own socket [.logged (retryRecord state loss.fault)] :=
        History.own_logged [_]
      refine ⟨loss.events socket listing.settings.retryDelay packet ++
        [.logged (retryRecord state loss.fault)], ?_, ?_, hown.append hlogged, ?_⟩
      · rwa [← List.append_assoc]
      · cases loss <;> rfl
      · rw [← List.append_assoc]
        exact hafter.append (by simp [Script.takes])

/-- That two states are the same but for the retries left and the last fault. -/
structure SameStanding (state state' : State) : Prop where
  phase : state'.phase = state.phase
  cursor : state'.cursor = state.cursor
  page : state'.page = state.page
  pages : state'.pagesDelivered = state.pagesDelivered
  servers : state'.serversDelivered = state.serversDelivered

theorem SameStanding.isFinished {state state' : State} (h : SameStanding state state') :
    state'.isFinished = state.isFinished := by
  rw [State.isFinished, State.isFinished, h.phase]

theorem SameStanding.trans {first second third : State} (h : SameStanding first second)
    (h' : SameStanding second third) : SameStanding first third where
  phase := h'.phase.trans h.phase
  cursor := h'.cursor.trans h.cursor
  page := h'.page.trans h.page
  pages := h'.pages.trans h.pages
  servers := h'.servers.trans h.servers

/-- A listing that continues comes back to where it is after as many losses as it has retries left,
or fewer. -/
theorem steps_lost {losses : List Loss} (phase : state.phase = .continuing)
    (hahead : Script.Ahead scripts socket history (losses.map Loss.send ++ sends)
      (losses.flatMap Loss.receives ++ receives))
    (htransport : ∀ loss ∈ losses, loss.fault.isTransport = true)
    (hleft : (losses.length : Int) ≤ state.retriesLeft)
    (hquery : (listing.query state.cursor).toBytes = .ok packet) (listener : Listener Play)
    (browser : Browser) :
    ∃ more back, SameStanding state back ∧
      (∀ limit, listing.steps (scripted scripts) listener socket (losses.length + limit) state
          browser history =
        listing.steps (scripted scripts) listener socket limit back browser (history ++ more)) ∧
      more.unlogged = losses.flatMap (Loss.events socket listing.settings.retryDelay packet) ∧
      more.Own socket ∧ Script.Ahead scripts socket (history ++ more) sends receives := by
  induction losses generalizing state history with
  | nil =>
      refine ⟨[], state, ⟨rfl, rfl, rfl, rfl, rfl⟩, ?_, rfl, History.own_nil, ?_⟩
      · intro limit
        rw [List.length_nil, Nat.zero_add, List.append_nil]
      · rwa [List.append_nil]
  | cons loss losses ih =>
      obtain ⟨hloss, hlosses⟩ := List.forall_mem_cons.1 htransport
      rw [List.length_cons] at hleft
      have hhead : Script.Ahead scripts socket history
          (loss.send :: (losses.map Loss.send ++ sends))
          (loss.receives ++ (losses.flatMap Loss.receives ++ receives)) := by
        simpa using hahead
      obtain ⟨first, hstep, hfirst, hownFirst, hafter⟩ :=
        step_lost phase hhead hloss (by omega) hquery listener browser
      have hphase : { state with
          retriesLeft := state.retriesLeft - 1, lastFault := some loss.fault }.phase =
            .continuing := phase
      obtain ⟨more, back, hback, hsteps, hmore, hown, hlast⟩ :=
        ih hphase hafter hlosses (by simp only; omega) hquery
      have hfinished : state.isFinished = false := by simp [State.isFinished, phase]
      have hstanding : SameStanding state back :=
        ⟨hback.phase, hback.cursor, hback.page, hback.pages, hback.servers⟩
      refine ⟨first ++ more, back, hstanding, ?_, ?_, hownFirst.append hown, ?_⟩
      · intro limit
        rw [List.length_cons, Nat.add_right_comm, steps_of_ok hfinished hstep, hsteps,
          List.append_assoc]
      · rw [History.unlogged_append, hfirst, hmore, List.flatMap_cons]
      · rwa [← List.append_assoc]

end Listing

end ServerBrowser
