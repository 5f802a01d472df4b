import Mathlib.Data.List.Induction
import ServerBrowser.Proofs.Listing.Run
import ServerBrowser.Proofs.Response.Format

/-!
# ServerBrowser.Proofs.Listing.Requests

Which packets a listing sends, over any transport and whatever arrives.  The first packet on its
socket asks from the null address.  Each later one goes on after the last server of the packet that
was received last, and that server is not the null address: a continuation never starts over.

* `Requests` says which packets may be sent after what was sent and received on the socket;
* `Orderly` says that all packets of a history are such packets, on the socket of the listing;
* `OnCourse.move` keeps this from step to step, and `run_requests` concludes it for whole runs.

What is asked of a listener is that it leaves its pages as they are and runs no query of its own; it
may fail.
-/

namespace ServerBrowser

open Scenario

/-! ## events without packets -/

/-- Whether an event makes a socket, or is a packet on one. -/
def Event.isTraffic : Event → Bool
  | .opened .. | .created _ | .sent .. | .received .. => true
  | _ => false

namespace History

/-- Events that make no socket and carry no packet. -/
def Silent (more : History) : Prop :=
  ∀ event ∈ more, event.isTraffic = false

variable {socket : Nat} {history more : History}

theorem silent_nil : Silent [] := by simp [Silent]

theorem Silent.singleton {event : Event} (h : event.isTraffic = false) : Silent [event] := by
  simpa [Silent] using h

theorem Silent.append {first second : History} (hfirst : first.Silent) (hsecond : second.Silent) :
    Silent (first ++ second) := fun event hevent =>
  (List.mem_append.1 hevent).elim (hfirst event) (hsecond event)

theorem silent_logged (records : List Log.Record) : Silent (records.map .logged) := by
  simp [Silent, Event.isTraffic]

theorem silent_look (cancellable : Bool) : (look cancellable).Silent := by
  cases cancellable <;> simp [Silent, look, Event.isTraffic]

theorem silent_delay (cancellable : Bool) (seconds : Binary64) :
    (delay cancellable seconds).Silent := by
  cases cancellable <;> exact .singleton rfl

/-- Silent events leave what was sent and received as it is. -/
theorem Silent.traffic (h : more.Silent) (socket : Nat) (history : History) :
    (History.traffic socket (history ++ more)).sent = (history.traffic socket).sent ∧
      (History.traffic socket (history ++ more)).received = (history.traffic socket).received := by
  induction more generalizing history with
  | nil => simp
  | cons event more ih =>
      obtain ⟨hevent, hmore⟩ := List.forall_mem_cons.1 h
      rw [List.append_cons, (ih hmore _).1, (ih hmore _).2, traffic_append_singleton]
      cases event <;> simp_all [Event.isTraffic, Traffic.add]

@[simp] theorem socketCount_append (history more : History) :
    socketCount (history ++ more) = history.socketCount + socketCount more := by
  simp [socketCount]

/-- Silent events make no sockets. -/
theorem Silent.socketCount (h : more.Silent) : more.socketCount = 0 := by
  rw [History.socketCount, List.countP_eq_zero]
  intro event hevent
  have := h event hevent
  cases event <;> simp_all [Event.isTraffic]

/-- A packet was sent where its event is in the history. -/
theorem mem_sent_iff {packet : List UInt8} :
    packet ∈ (history.traffic socket).sent ↔ .sent socket packet ∈ history := by
  induction history using List.reverseRecOn with
  | nil => simp [traffic]
  | append_singleton history event ih =>
      rw [traffic_append_singleton, List.mem_append, ← ih, List.mem_singleton]
      cases event with
      | sent other packet' =>
          by_cases hother : other = socket
          · simp [Traffic.add, hother]
          · simp [Traffic.add, hother, Ne.symm hother]
      | received other packet' => by_cases hother : other = socket <;> simp [Traffic.add, hother]
      | _ => simp [Traffic.add]

end History

/-- A listener that leaves its pages as they are and runs no query.  It may fail. -/
def Listener.Watches (listener : Listener Play) : Prop :=
  ∀ page browser history, ∃ result browser' more,
    listener page browser history = ((result, browser'), history ++ more) ∧
      (∀ left, result = .ok left → left = page) ∧ more.Silent

namespace Listing

/-! ## requests -/

/-- Whether the packet that was received last decodes to a page. -/
def LastPage (received : List (List UInt8)) (page : Page) : Prop :=
  ∃ reply, received.getLast? = some reply ∧ Response.parse reply = .ok page

/-- The packets that a listing may send after what was sent and received on its socket. -/
inductive Requests (listing : Listing) (sent received : List (List UInt8)) (packet : List UInt8) :
    Prop
  /-- The first query asks from the beginning. -/
  | first (unsent : sent = []) (query : (listing.query .null).toBytes = .ok packet)
  /-- A later one goes on after the last server of the packet that was received last. -/
  | next {page : Page} {cursor : ServerAddress} (resumed : sent ≠ [])
    (decoded : LastPage received page) (last : page.servers.getLast? = some cursor)
    (notNull : cursor ≠ .null) (query : (listing.query cursor).toBytes = .ok packet)

/-- Whether all packets in `since`, a part of a history that goes on after `past`, are requests of a
listing on its socket, and no other socket is made in between. -/
structure Orderly (listing : Listing) (socket : Nat) (past since : History) : Prop where
  alone : since.socketCount = 0
  requests : ∀ before other packet, before ++ [.sent other packet] <+: since →
    other = socket ∧ listing.Requests (History.traffic socket (past ++ before)).sent
      (History.traffic socket (past ++ before)).received packet

variable {listing : Listing} {scenario : Scenario} {cancellable : Bool} {listener : Listener Play}
  {socket : Nat} {base past since : History} {state : State} {browser browser' : Browser}
  {history history' : History} {asked answers : List (List UInt8)} {cursor : ServerAddress}

theorem orderly_nil : Orderly listing socket past [] where
  alone := rfl
  requests before other packet h := by simp at h

theorem Orderly.socketCount_front {front : History} (h : Orderly listing socket past since)
    (hfront : front <+: since) : front.socketCount = 0 := by
  have hcount : front.socketCount ≤ since.socketCount := hfront.sublist.countP_le
  rw [h.alone] at hcount
  omega

/-- Order is kept by an event that makes no socket, and that is a request if it is a packet sent. -/
theorem Orderly.concat {event : Event} (h : Orderly listing socket past since)
    (hevent : History.socketCount [event] = 0)
    (hsent : ∀ other packet, event = .sent other packet →
      other = socket ∧ listing.Requests (History.traffic socket (past ++ since)).sent
        (History.traffic socket (past ++ since)).received packet) :
    Orderly listing socket past (since ++ [event]) where
  alone := by rw [History.socketCount_append, h.alone, hevent]
  requests before other packet hbefore := by
    obtain ⟨rfl, hlast⟩ | hbefore := moment_concat hbefore
    · exact hsent other packet hlast.symm
    · exact h.requests before other packet hbefore

/-- That a listing has come from `base` to a history in good order, in which it has sent `asked` and
received `answers`. -/
def Reached (listing : Listing) (socket : Nat) (base past : History)
    (asked answers : List (List UInt8)) (history : History) : Prop :=
  ∃ since, history = base ++ since ∧ Orderly listing socket past since ∧
    (History.traffic socket (past ++ since)).sent = asked ∧
    (History.traffic socket (past ++ since)).received = answers

theorem Reached.silent {more : History}
    (h : Reached listing socket base past asked answers history) (hmore : more.Silent) :
    Reached listing socket base past asked answers (history ++ more) := by
  induction more generalizing history with
  | nil => rwa [List.append_nil]
  | cons event more ih =>
      obtain ⟨hevent, hrest⟩ := List.forall_mem_cons.1 hmore
      obtain ⟨since, rfl, horderly, hasked, hanswers⟩ := h
      have hone : History.Silent [event] := .singleton hevent
      obtain ⟨hsent, hreceived⟩ := hone.traffic socket (past ++ since)
      have hnext : Orderly listing socket past (since ++ [event]) := by
        refine horderly.concat hone.socketCount ?_
        rintro other packet rfl
        simp [Event.isTraffic] at hevent
      rw [List.append_cons]
      refine ih ⟨since ++ [event], by simp, hnext, ?_, ?_⟩ hrest
      · rw [← List.append_assoc, hsent, hasked]
      · rw [← List.append_assoc, hreceived, hanswers]

/-- A request may be sent. -/
theorem Reached.send {packet : List UInt8}
    (h : Reached listing socket base past asked answers history)
    (hrequest : listing.Requests asked answers packet) :
    Reached listing socket base past (asked ++ [packet]) answers
      (history ++ [.sent socket packet]) := by
  obtain ⟨since, rfl, horderly, rfl, rfl⟩ := h
  have hnext : Orderly listing socket past (since ++ [.sent socket packet]) := by
    refine horderly.concat rfl ?_
    rintro _ _ ⟨⟩
    exact ⟨rfl, hrequest⟩
  have htraffic := History.traffic_sent socket (past ++ since) packet
  rw [List.append_assoc] at htraffic
  exact ⟨since ++ [.sent socket packet], by simp, hnext, by rw [htraffic], by rw [htraffic]⟩

/-- Any packet may be received. -/
theorem Reached.receive (packet : List UInt8)
    (h : Reached listing socket base past asked answers history) :
    Reached listing socket base past asked (answers ++ [packet])
      (history ++ [.received socket packet]) := by
  obtain ⟨since, rfl, horderly, rfl, rfl⟩ := h
  have htraffic := History.traffic_received socket (past ++ since) packet
  rw [List.append_assoc] at htraffic
  exact ⟨since ++ [.received socket packet], by simp, horderly.concat rfl (by simp),
    by rw [htraffic], by rw [htraffic]⟩

/-! ## the parts of a step -/

/-- What receiving leaves: a packet that arrives is the last one that was received. -/
def Answered (answers answers' : List (List UInt8)) : Except Fault (List UInt8) → Prop
  | .ok packet => answers'.getLast? = some packet
  | .error _ => answers' = answers

theorem Reached.receives {result : Except Fault (List UInt8)}
    (h : Reached listing socket base past asked answers history)
    (hreceives : scenario.Receives socket history result history') :
    ∃ answers', Reached listing socket base past asked answers' history' ∧
      Answered answers answers' result := by
  have hevent : History.Silent [.awaited socket none] := .singleton rfl
  cases hreceives with
  | lost answer => exact ⟨answers, h.silent hevent, rfl⟩
  | arrived answer => exact ⟨_, (h.silent hevent).receive _, by simp [Answered]⟩

/-- Asking sends a packet at most if it is a request, and certainly if it succeeds. -/
theorem Reached.asks {result : Except Fault Unit}
    (h : Reached listing socket base past asked answers history)
    (hasks : listing.Asks scenario socket cursor history result history')
    (hrequest : ∀ packet, (listing.query cursor).toBytes = .ok packet →
      listing.Requests asked answers packet) :
    ∃ asked', Reached listing socket base past asked' answers history' ∧
      (asked ≠ [] ∨ result = .ok () → asked' ≠ []) := by
  cases hasks with
  | unwritten query => exact ⟨asked, h, by simp⟩
  | unsent query answer | sent query answer => exact ⟨_, h.send (hrequest _ query), by simp⟩

/-- An attempt to go on asks, and receives what arrives. -/
theorem Reached.exchanges {result : Except Fault (List UInt8)}
    (h : Reached listing socket base past asked answers history)
    (hexchanges : listing.Exchanges scenario socket cursor history result history')
    (hrequest : ∀ packet, (listing.query cursor).toBytes = .ok packet →
      listing.Requests asked answers packet) (hasked : asked ≠ []) :
    ∃ asked' answers', Reached listing socket base past asked' answers' history' ∧
      asked' ≠ [] ∧ Answered answers answers' result := by
  cases hexchanges with
  | unasked asks =>
      obtain ⟨asked', hreached, hsent⟩ := h.asks asks hrequest
      exact ⟨asked', answers, hreached, hsent (.inl hasked), rfl⟩
  | asked asks receives =>
      obtain ⟨asked', hreached, hsent⟩ := h.asks asks hrequest
      obtain ⟨answers', hreceived, hanswered⟩ := hreached.receives receives
      exact ⟨asked', answers', hreceived, hsent (.inl hasked), hanswered⟩

theorem silent_decodeEvents (state : State) (packet : List UInt8) :
    (decodeEvents state packet).Silent := by
  refine (History.silent_logged _).append ?_
  cases Response.parse packet with
  | ok page => exact .singleton rfl
  | error fault => exact History.silent_nil

theorem Reached.readied (h : Reached listing socket base past asked answers history)
    (cancellable : Bool) :
    Reached listing socket base past asked answers (listing.readied cancellable history) :=
  (h.silent (History.silent_delay cancellable _)).silent (History.silent_look cancellable)

/-! ## one step -/

/-- What the state of a listing says about its socket: the page at hand is the page received last,
and the cursor is its last server. -/
def Ready (state : State) (asked answers : List (List UInt8)) : Prop :=
  match state.phase with
  | .start => asked = []
  | .awaiting => asked ≠ []
  | .delivering => asked ≠ [] ∧ LastPage answers state.page
  | .continuing => asked ≠ [] ∧ ∃ page, LastPage answers page ∧
      page.servers.getLast? = some state.cursor
  | .done | .failed => True

/-- That a listing has come to its state by requests only. -/
def OnCourse (listing : Listing) (socket : Nat) (base past : History) (state : State)
    (history : History) : Prop :=
  ∃ asked answers, Reached listing socket base past asked answers history ∧
    Ready state asked answers

/-- A listing goes on after its cursor, which is not the null address. -/
theorem Reached.proceeds {result : Except Fault (List UInt8)}
    (h : Reached listing socket base past asked answers history)
    (hready : Ready state asked answers) (phase : state.phase = .continuing) (cancellable : Bool)
    (hexchanges : listing.Exchanges scenario socket state.cursor
      (listing.readied cancellable history) result history') :
    ∃ asked' answers', Reached listing socket base past asked' answers' history' ∧
      asked' ≠ [] ∧ Answered answers answers' result := by
  simp only [Ready, phase] at hready
  obtain ⟨hasked, page, ⟨reply, hreply, hparse⟩, hlast⟩ := hready
  have hnull : state.cursor ≠ .null :=
    (Response.listed_of_parse hparse _ (List.mem_of_getLast? hlast)).2
  exact (h.readied cancellable).exchanges hexchanges
    (fun _ => .next hasked ⟨reply, hreply, hparse⟩ hlast hnull) hasked

/-- A fault may end a listing at any time. -/
theorem onCourse_afterFault (h : Reached listing socket base past asked answers history)
    (state : State) (fault : Fault) :
    Holds (fun next _ history => OnCourse listing socket base past next history)
      (fun _ _ history => ∃ asked answers, Reached listing socket base past asked answers history)
      (state.afterFault fault) browser history :=
  holds_afterFault ⟨asked, answers, h, trivial⟩ ⟨asked, answers, h⟩

/-- The page of the packet that was received last is to be delivered. -/
theorem onCourse_decoded {packet : List UInt8}
    (h : Reached listing socket base past asked answers history) (hasked : asked ≠ [])
    (hlast : answers.getLast? = some packet) (state : State) :
    Holds (fun next _ history => OnCourse listing socket base past next history)
      (fun _ _ history => ∃ asked answers, Reached listing socket base past asked answers history)
      (state.settle ((Response.parse packet).map state.withPage)) browser
      (history ++ decodeEvents state packet) := by
  have hdecoded := h.silent (silent_decodeEvents state packet)
  cases hparse : Response.parse packet with
  | error fault => exact onCourse_afterFault hdecoded state fault
  | ok page => exact ⟨asked, answers, hdecoded, hasked, packet, hlast, hparse⟩

/-- **A step sends requests only.** -/
theorem OnCourse.move {result : Except Fault State}
    (h : OnCourse listing socket base past state history) (hwatches : listener.Watches)
    (hmove : Move listing scenario cancellable listener socket state browser history result browser'
      history') :
    Holds (fun next _ history => OnCourse listing socket base past next history)
      (fun _ _ history => ∃ asked answers, Reached listing socket base past asked answers history)
      result browser' history' := by
  obtain ⟨asked, answers, hreached, hready⟩ := h
  have hlooked := hreached.silent (History.silent_look cancellable)
  cases hmove with
  | beginStopped phase set => exact ⟨asked, answers, hlooked, trivial⟩
  | beginFailed phase clear asks =>
      simp only [Ready, phase] at hready
      obtain ⟨asked', hsent, -⟩ := hlooked.asks asks fun _ => .first hready
      exact onCourse_afterFault hsent _ _
  | begun phase clear asks =>
      simp only [Ready, phase] at hready
      obtain ⟨asked', hsent, hasked⟩ := hlooked.asks asks fun _ => .first hready
      exact ⟨asked', answers, hsent, hasked (.inr rfl)⟩
  | awaitFailed phase receives =>
      obtain ⟨answers', hreceived, -⟩ := hreached.receives receives
      exact onCourse_afterFault hreceived _ _
  | awaited phase receives =>
      simp only [Ready, phase] at hready
      obtain ⟨answers', hreceived, hlast⟩ := hreached.receives receives
      exact onCourse_decoded hreceived hready hlast state
  | listenerFailed phase listens =>
      obtain ⟨result, browser'', more, hplay, -, hsilent⟩ :=
        hwatches state.page.servers browser history
      cases hplay.symm.trans listens
      exact ⟨asked, answers, hreached.silent hsilent, trivial⟩
  | delivered phase listens =>
      simp only [Ready, phase] at hready
      obtain ⟨result, browser'', more, hplay, hleft, hsilent⟩ :=
        hwatches state.page.servers browser history
      cases hplay.symm.trans listens
      obtain rfl := hleft _ rfl
      have hafter := hreached.silent hsilent
      rw [settle_delivered]
      cases hend : state.page.isLast with
      | true =>
          rw [delivered_of_isLast _ hend]
          exact ⟨asked, answers, hafter, trivial⟩
      | false =>
          cases hlast : state.page.servers.getLast? with
          | none =>
              rw [List.getLast?_eq_none_iff.1 hlast, delivered_nil hend]
              exact ⟨asked, answers, hafter⟩
          | some last =>
              rw [delivered_of_getLast? hend hlast]
              exact ⟨asked, answers, hafter, hready.1, state.page, hready.2, hlast⟩
  | pauseStopped phase set =>
      exact ⟨asked, answers, hreached.silent (History.silent_delay _ _), trivial⟩
  | proceedStopped phase clear set => exact ⟨asked, answers, hreached.readied _, trivial⟩
  | retried phase clear exchanges transport left =>
      obtain ⟨asked', answers', hafter, hasked, rfl⟩ :=
        hreached.proceeds hready phase cancellable exchanges
      simp only [Ready, phase] at hready
      refine ⟨asked', answers', hafter.silent (.singleton rfl), ?_⟩
      simp only [Ready, phase]
      exact ⟨hasked, hready.2⟩
  | proceedFailed phase clear exchanges final =>
      obtain ⟨asked', answers', hafter, -⟩ := hreached.proceeds hready phase cancellable exchanges
      exact onCourse_afterFault hafter _ _
  | proceeded phase clear exchanges =>
      obtain ⟨asked', answers', hafter, hasked, hlast⟩ :=
        hreached.proceeds hready phase cancellable exchanges
      exact onCourse_decoded hafter hasked hlast state
  | rested phase => exact ⟨asked, answers, hreached, hready⟩

/-! ## whole listings -/

/-- What a listing adds to the history before its first step. -/
def opening (listing : Listing) (socket : Nat) : History :=
  [.logged listing.startRecord, .opened socket listing.master listing.settings.timeout]

theorem opened_eq (listing : Listing) (history : History) :
    listing.opened history = history ++ listing.opening history.socketCount := by
  simp [opened, opening]

theorem silent_closing (listing : Listing) (socket : Nat) (result : Except Fault State) :
    (listing.closing socket result).Silent := by
  cases result <;> simp [closing, History.Silent, Event.isTraffic]

/-- **A listing sends requests only.**  All its packets go over the one socket that it makes; `past`
is the part of the history since which packets on that socket count. -/
theorem run_requests (hwatches : listener.Watches) (listing : Listing) (scenario : Scenario)
    (cancellable : Bool) (limit : Nat) (browser : Browser) (history past : History)
    (hpast : (past.traffic history.socketCount).sent = []) :
    ∃ result browser' more,
      listing.run (scenario.world cancellable) listener limit browser history =
        ((result, browser'), history ++ more) ∧
      more.socketCount = 1 ∧
      ∀ before other packet, before ++ [.sent other packet] <+: more →
        other = history.socketCount ∧ before.socketCount = 1 ∧
          listing.Requests (History.traffic other (past ++ before)).sent
            (History.traffic other (past ++ before)).received packet := by
  have hsent : ∀ before other packet,
      ¬ before ++ [.sent other packet] <+: listing.opening history.socketCount := by
    intro before other packet h
    have hmem := mem_of_moment h
    simp [opening] at hmem
  cases hopen : scenario.connect (listing.opened history) with
  | error fault =>
      have hrun : listing.run (scenario.world cancellable) listener limit browser history =
          ((.error fault, browser), listing.opened history) :=
        run_play_error listing scenario cancellable listener hopen
      rw [opened_eq] at hrun
      exact ⟨_, _, _, hrun, rfl, fun before other packet h => absurd h (hsent before other packet)⟩
  | ok =>
      have hstart : OnCourse listing history.socketCount (listing.opened history)
          (past ++ listing.opening history.socketCount) listing.initial
          (listing.opened history) := by
        refine ⟨[], _, ⟨[], by simp, orderly_nil, ?_, rfl⟩, rfl⟩
        rw [List.append_nil, opening, List.append_cons, History.traffic_append_singleton,
          History.traffic_append_singleton]
        exact hpast
      obtain ⟨result, browser', history', hsteps, hholds⟩ :=
        listing.steps_induction scenario cancellable listener history.socketCount
          (fun state _ history' => OnCourse listing history.socketCount (listing.opened history)
            (past ++ listing.opening history.socketCount) state history')
          (fun _ _ history' => ∃ asked answers, Reached listing history.socketCount
            (listing.opened history) (past ++ listing.opening history.socketCount) asked answers
            history')
          (fun hkept _ hmove => hkept.move hwatches hmove) limit browser hstart
      obtain ⟨asked, answers, hreached⟩ : ∃ asked answers, Reached listing history.socketCount
          (listing.opened history) (past ++ listing.opening history.socketCount) asked answers
          history' := by
        cases result with
        | ok final =>
            obtain ⟨-, asked, answers, hreached, -⟩ := hholds
            exact ⟨asked, answers, hreached⟩
        | error fault =>
            obtain hreached | ⟨-, final, asked, answers, hreached, -⟩ := hholds
            · exact hreached
            · exact ⟨asked, answers, hreached⟩
      obtain ⟨since, hsince, horderly, -, -⟩ :=
        hreached.silent (silent_closing listing history.socketCount result)
      have hrun := run_play listing scenario cancellable listener history hopen hsteps
      rw [hsince, opened_eq, List.append_assoc] at hrun
      refine ⟨_, _, _, hrun, ?_, fun before other packet h => ?_⟩
      · rw [History.socketCount_append, horderly.alone]
        rfl
      · obtain hfirst | ⟨between, rfl, hbetween⟩ := moment_append h
        · exact absurd hfirst (hsent before other packet)
        · obtain ⟨rfl, hrequest⟩ := horderly.requests between other packet hbetween
          have halone := horderly.socketCount_front ((List.prefix_append ..).trans hbetween)
          rw [← List.append_assoc]
          refine ⟨rfl, ?_, hrequest⟩
          rw [History.socketCount_append, halone]
          rfl

end Listing

end ServerBrowser
