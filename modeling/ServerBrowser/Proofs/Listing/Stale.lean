import ServerBrowser.Proofs.Listing.Traffic
import ServerBrowser.Proofs.Master

/-!
# ServerBrowser.Proofs.Listing.Stale

A listing of an honest master over a network that drops, delays, duplicates and reorders replies.
What arrives answers some query that was sent on the socket, not the last one in particular, so the
cursor can go back to a server that was passed long ago.  No server is lost even so:

* what was delivered at any moment is a front of the master's servers, as a set;
* a query goes on after a server only when that server and all before it were delivered;
* a listing that ends well has delivered all servers.

The link between replies and deliveries is `Known`: every query that was sent goes on after a front
of what is delivered by now, so whatever answers it extends such a front without a gap.
-/

namespace ServerBrowser

open Scenario

/-- An honest master behind a network that may hold replies back, lose them and repeat them, but
forges none: what arrives answers a query that was sent before. -/
def Master.Recalls (master : Master) (scenario : Scenario) (socket : Nat) : Prop :=
  ∀ history reply, scenario.receive (history ++ [.awaited socket none]) = .ok reply →
    ∃ request ∈ (History.traffic socket history).sent, master.Answers request reply

/-- A network that repeats itself, before a master that puts one server on each page: every second
query is answered with the reply to the first one. -/
def Master.repeatingLink (master : Master) : Scenario where
  create _ := .ok ()
  connect _ := .ok ()
  send _ := .ok ()
  receive history :=
    let sent := (history.traffic 0).sent
    match if sent.length % 2 = 0 then sent.head? else sent.getLast? with
    | none => .error (.raised .transport "lost")
    | some request => .ok (master.reply request)
  isCancelled _ := false

theorem Master.recalls_repeatingLink (master : Master) : master.Recalls master.repeatingLink 0 := by
  intro history reply h
  simp only [repeatingLink, History.traffic_awaited] at h
  cases hchosen : if (History.traffic 0 history).sent.length % 2 = 0 then
      (History.traffic 0 history).sent.head? else (History.traffic 0 history).sent.getLast? with
  | none => simp [hchosen] at h
  | some request =>
      rw [hchosen, Except.ok.injEq] at h
      refine ⟨request, ?_, h ▸ master.answers_reply request⟩
      split at hchosen
      · exact List.mem_of_mem_head? hchosen
      · exact List.mem_of_getLast? hchosen

/-! ## what is known of the past -/

/-- Whether exactly the given servers were delivered, in whatever order and however often. -/
def Traffic.Covers (traffic : Traffic) (servers : List ServerAddress) : Prop :=
  ∀ server, server ∈ traffic.pages.flatten ↔ server ∈ servers

/-- What holds at every moment of a history: a front of the master's servers was delivered, and a
packet that was sent goes on after a front that was delivered before. -/
structure Causal (master : Master) (socket : Nat) (history : History) : Prop where
  covered : ∀ past : History, past <+: history →
    ∃ before, before <+: master.servers ∧ (past.traffic socket).Covers before
  asked : ∀ (past : History) packet, past ++ [.sent socket packet] <+: history →
    ∃ before, before <+: master.servers ∧
      Query.cursor? packet = some (Master.cursorAfter before) ∧
      ∀ server ∈ before, server ∈ (past.traffic socket).pages.flatten

/-- A causal history in which the front `before` of the master's servers was delivered.  Each query
that was sent goes on after a front of it. -/
structure Known (master : Master) (socket : Nat) (before : List ServerAddress)
    (history : History) : Prop extends Causal master socket history where
  front : before <+: master.servers
  covers : (history.traffic socket).Covers before
  cursors : ∀ request ∈ (history.traffic socket).sent, ∃ past, past <+: before ∧
    Query.cursor? request = some (Master.cursorAfter past)

variable {master : Master} {socket : Nat} {history more : History} {before : List ServerAddress}

/-- Causality goes on to the next event: of a packet that is sent it says what it goes on after. -/
theorem Causal.concat {event : Event} (h : Causal master socket history)
    (hcovered : ∃ before, before <+: master.servers ∧
      (History.traffic socket (history ++ [event])).Covers before)
    (hasked : ∀ packet, event = .sent socket packet → ∃ before, before <+: master.servers ∧
      Query.cursor? packet = some (Master.cursorAfter before) ∧
      ∀ server ∈ before, server ∈ (history.traffic socket).pages.flatten) :
    Causal master socket (history ++ [event]) where
  covered past hpast := by
    obtain rfl | hpast := List.prefix_concat_iff.1 hpast
    · exact hcovered
    · exact h.covered past hpast
  asked past packet hpast := by
    obtain ⟨rfl, hevent⟩ | hpast := moment_concat hpast
    · exact hasked packet hevent.symm
    · exact h.asked past packet hpast

/-- Nothing is delivered and nothing was sent in the beginning. -/
theorem known_nil : Known master socket [] [] where
  covered past hpast := by
    rw [List.prefix_nil.1 hpast]
    exact ⟨[], List.nil_prefix, fun server => by simp [History.traffic]⟩
  asked past packet hpast := by simp at hpast
  front := List.nil_prefix
  covers server := by simp [History.traffic]
  cursors request hrequest := by simp [History.traffic] at hrequest

/-- An event that is neither a packet sent nor a page tells nothing new. -/
theorem Known.concat {event : Event} (h : Known master socket before history)
    (hsent : ((history.traffic socket).add socket event).sent = (history.traffic socket).sent)
    (hpages : ((history.traffic socket).add socket event).pages = (history.traffic socket).pages)
    (hevent : ∀ packet, event ≠ .sent socket packet) :
    Known master socket before (history ++ [event]) := by
  have hcovers : (History.traffic socket (history ++ [event])).Covers before := by
    rw [History.traffic_append_singleton, Traffic.Covers, hpages]
    exact h.covers
  refine ⟨h.toCausal.concat ⟨before, h.front, hcovers⟩ fun packet heq => ?_, h.front, hcovers, ?_⟩
  · exact absurd heq (hevent packet)
  · rw [History.traffic_append_singleton, hsent]
    exact h.cursors

/-- Quiet events tell nothing new. -/
theorem Known.quiet (h : Known master socket before history)
    (hquiet : History.Quiet socket more) : Known master socket before (history ++ more) := by
  induction more generalizing history with
  | nil => rwa [List.append_nil]
  | cons event more ih =>
      obtain ⟨hevent, hmore⟩ := List.forall_mem_cons.1 hquiet
      have htraffic : History.traffic socket (history ++ [event]) = history.traffic socket :=
        History.traffic_append_quiet (.singleton hevent)
      rw [History.traffic_append_singleton] at htraffic
      rw [List.append_cons]
      refine ih (h.concat (by rw [htraffic]) (by rw [htraffic]) ?_) hmore
      rintro packet rfl
      simp [Event.isQuiet] at hevent

/-- What a packet that is received says counts when its page is delivered. -/
theorem Known.received (h : Known master socket before history) (packet : List UInt8) :
    Known master socket before (history ++ [.received socket packet]) :=
  h.concat (by simp [Traffic.add]) (by simp [Traffic.add]) (by simp)

/-- A packet may be sent that goes on after a front of what was delivered. -/
theorem Known.sent {packet : List UInt8} {past : List ServerAddress}
    (h : Known master socket before history) (hpast : past <+: before)
    (hcursor : Query.cursor? packet = some (Master.cursorAfter past)) :
    Known master socket before (history ++ [.sent socket packet]) := by
  have htraffic := History.traffic_sent socket history packet
  have hcovers : (History.traffic socket (history ++ [.sent socket packet])).Covers before := by
    rw [htraffic]
    exact h.covers
  refine ⟨h.toCausal.concat ⟨before, h.front, hcovers⟩ ?_, h.front, hcovers, ?_⟩
  · rintro _ ⟨⟩
    exact ⟨past, hpast.trans h.front, hcursor, fun server hserver =>
      (h.covers server).2 (hpast.subset hserver)⟩
  · rw [htraffic]
    intro request hrequest
    obtain hrequest | hrequest := List.mem_append.1 hrequest
    · exact h.cursors request hrequest
    · rw [List.mem_singleton.1 hrequest]
      exact ⟨past, hpast, hcursor⟩

/-- A page that goes on after a front of what was delivered leaves no gap: what is delivered then is
a front of the master's servers again. -/
theorem Known.paged {past run : List ServerAddress} (h : Known master socket before history)
    (hpast : past <+: before) (hrun : past ++ run <+: master.servers) :
    ∃ before', past ++ run <+: before' ∧
      Known master socket before' (history ++ [.paged run]) := by
  have htraffic := History.traffic_paged socket history run
  have hpages : ∀ server,
      server ∈ (History.traffic socket (history ++ [.paged run])).pages.flatten ↔
        server ∈ before ∨ server ∈ run := fun server => by
    rw [htraffic, List.flatten_append, List.mem_append, h.covers, List.flatten_singleton]
  -- Both what was delivered and the page's end are fronts, so one of them is a front of the other.
  obtain ⟨before', hlonger, hfront, hgrown, hcovers⟩ : ∃ before', past ++ run <+: before' ∧
      before' <+: master.servers ∧ before <+: before' ∧
      ∀ server, server ∈ before ∨ server ∈ run ↔ server ∈ before' := by
    obtain hshort | hlong := List.prefix_or_prefix_of_prefix hrun h.front
    · refine ⟨before, hshort, h.front, List.prefix_rfl, fun server => ?_⟩
      exact ⟨fun hserver => hserver.elim id fun hserver =>
        hshort.subset (List.mem_append_right past hserver), .inl⟩
    · refine ⟨past ++ run, List.prefix_rfl, hrun, hlong, fun server => ?_⟩
      rw [List.mem_append]
      exact ⟨fun hserver => hserver.elim (fun hserver => List.mem_append.1 (hlong.subset hserver))
        .inr, fun hserver => hserver.imp_left fun hserver => hpast.subset hserver⟩
  have hcovered : (History.traffic socket (history ++ [.paged run])).Covers before' :=
    fun server => (hpages server).trans (hcovers server)
  refine ⟨before', hlonger, h.toCausal.concat ⟨before', hfront, hcovered⟩ (by simp), hfront,
    hcovered, ?_⟩
  rw [htraffic]
  intro request hrequest
  obtain ⟨asked, hasked, hcursor⟩ := h.cursors request hrequest
  exact ⟨asked, hasked.trans hgrown, hcursor⟩

/-- What is received answers a query that was sent. -/
theorem Scenario.Receives.known {scenario : Scenario} {history' : History}
    {result : Except Fault (List UInt8)}
    (hreceives : scenario.Receives socket history result history')
    (h : Known master socket before history) (hrecalls : master.Recalls scenario socket) :
    Known master socket before history' ∧ ∀ reply, result = .ok reply →
      ∃ request ∈ (history'.traffic socket).sent, master.Answers request reply := by
  have hawaited : Known master socket before (history ++ [.awaited socket none]) :=
    h.quiet (.singleton rfl)
  cases hreceives with
  | lost answer => exact ⟨hawaited, by simp⟩
  | arrived answer =>
      refine ⟨hawaited.received _, ?_⟩
      rintro _ ⟨⟩
      rw [History.traffic_received, History.traffic_awaited]
      exact hrecalls _ _ answer

namespace Listing

/-! ## one step -/

/-- What the state of a listing says when `before` was delivered: the page at hand and the cursor go
on after a front of it, and a listing that is done has delivered all. -/
def Extends (master : Master) (before : List ServerAddress) (state : State) : Prop :=
  match state.phase with
  | .delivering =>
    ∃ past rest, past <+: before ∧ master.servers = past ++ state.page.servers ++ rest ∧
      if state.page.isLast then rest = [] else state.page.servers ≠ []
  | .continuing => ∃ past, past <+: before ∧ state.cursor = Master.cursorAfter past
  | .done => before = master.servers
  | .start | .awaiting | .failed => True

/-- That a listing leaves no gap. -/
def Gapless (master : Master) (socket : Nat) (state : State) (history : History) : Prop :=
  ∃ before, Known master socket before history ∧ Extends master before state

variable {listing : Listing} {scenario : Scenario} {cancellable : Bool}
  {listener : Listener Play} {state : State} {browser browser' : Browser} {history' : History}

/-- A fault may end a listing at any time. -/
theorem gapless_afterFault (h : Known master socket before history) (state : State)
    (fault : Fault) :
    Holds (fun next _ history => Gapless master socket next history)
      (fun _ _ history => ∃ before, Known master socket before history) (state.afterFault fault)
      browser history :=
  holds_afterFault ⟨before, h, trivial⟩ ⟨before, h⟩

/-- Whatever query an honest reply answers, its page goes on after a front of what was delivered. -/
theorem extends_answered {reply : List UInt8} (h : Known master socket before history)
    (hanswers : ∃ request ∈ (history.traffic socket).sent, master.Answers request reply)
    (state : State) :
    ∃ next, state.settle ((Response.parse reply).map state.withPage) = .ok next ∧
      Extends master before next := by
  obtain ⟨request, hrequest, hanswers⟩ := hanswers
  obtain ⟨past, hpast, hcursor⟩ := h.cursors request hrequest
  obtain ⟨after, hsplit⟩ := hpast.trans h.front
  obtain ⟨run, rest, isLast, hrun, hempty, hend, hparse⟩ := hanswers.parse hsplit.symm hcursor
  refine ⟨state.withPage ⟨run, isLast⟩, by rw [hparse]; rfl, past, rest, hpast, ?_, ?_⟩
  · rw [← hsplit, hrun, List.append_assoc]
    rfl
  · cases isLast with
    | true => exact hend rfl
    | false => exact fun hnil => Bool.false_ne_true (hempty hnil).2

/-- Asking for what follows a front of what was delivered. -/
theorem Asks.known {past : List ServerAddress} {result : Except Fault Unit}
    (hasks : listing.Asks scenario socket (Master.cursorAfter past) history result history')
    (h : Known master socket before history) (hpast : past <+: before) :
    Known master socket before history' := by
  obtain ⟨after, hsplit⟩ := hpast.trans h.front
  obtain ⟨packet, hcursor, rfl, -⟩ := hasks.of_isRecord (Master.isRecord_cursorAfter hsplit.symm)
  exact h.sent hpast hcursor

/-- The first query asks from the beginning, a front of whatever was delivered. -/
theorem Asks.known_null {result : Except Fault Unit}
    (hasks : listing.Asks scenario socket .null history result history')
    (h : Known master socket before history) : Known master socket before history' :=
  have hfirst : listing.Asks scenario socket (Master.cursorAfter []) history result history' :=
    hasks
  hfirst.known h List.nil_prefix

/-- An attempt to go on after a front of what was delivered. -/
theorem Exchanges.known {past : List ServerAddress} {result : Except Fault (List UInt8)}
    (hexchanges : listing.Exchanges scenario socket (Master.cursorAfter past) history result
      history')
    (h : Known master socket before history) (hpast : past <+: before)
    (hrecalls : master.Recalls scenario socket) :
    Known master socket before history' ∧ ∀ reply, result = .ok reply →
      ∃ request ∈ (history'.traffic socket).sent, master.Answers request reply := by
  cases hexchanges with
  | unasked asks => exact ⟨asks.known h hpast, by simp⟩
  | asked asks receives => exact receives.known (asks.known h hpast) hrecalls

/-- What is known before an attempt is known after its delay and its look at the cancel signal. -/
theorem known_readied (h : Known master socket before history) (listing : Listing)
    (cancellable : Bool) : Known master socket before (listing.readied cancellable history) := by
  obtain ⟨more, hmore, hquiet⟩ := readied_eq listing cancellable socket history
  rw [hmore]
  exact h.quiet hquiet

/-- **A step leaves no gap.** -/
theorem Gapless.move {result : Except Fault State} (h : Gapless master socket state history)
    (hrecalls : master.Recalls scenario socket) (hreads : listener.Reads socket)
    (hfinished : state.isFinished = false)
    (hmove : Move listing scenario cancellable listener socket state browser history result browser'
      history') :
    Holds (fun next _ history => Gapless master socket next history)
      (fun _ _ history => ∃ before, Known master socket before history) result browser'
      history' := by
  obtain ⟨before, hknown, hextends⟩ := h
  cases hmove with
  | beginStopped phase set => exact ⟨before, hknown.quiet (History.quiet_look _), trivial⟩
  | beginFailed phase clear asks =>
      have hlooked := hknown.quiet (History.quiet_look cancellable)
      exact gapless_afterFault (asks.known_null hlooked) _ _
  | begun phase clear asks =>
      have hlooked := hknown.quiet (History.quiet_look cancellable)
      exact ⟨before, asks.known_null hlooked, trivial⟩
  | awaitFailed phase receives => exact gapless_afterFault (receives.known hknown hrecalls).1 _ _
  | awaited phase receives =>
      obtain ⟨hreceived, hanswers⟩ := receives.known hknown hrecalls
      obtain ⟨next, hnext, hextends⟩ := extends_answered hreceived (hanswers _ rfl) state
      rw [hnext]
      exact ⟨before, hreceived.quiet (quiet_decodeEvents _ _), hextends⟩
  | listenerFailed phase listens => simpa using (hreads.traffic listens).1
  | delivered phase listens =>
      simp only [Extends, phase] at hextends
      obtain ⟨past, rest, hpast, hsplit, hend⟩ := hextends
      obtain ⟨browser'', more, hplay, hquiet⟩ := hreads state.page.servers browser history
      cases hplay.symm.trans listens
      obtain ⟨before', hlonger, hpaged⟩ := hknown.paged hpast ⟨rest, hsplit.symm⟩
      cases hlast : state.page.isLast with
      | true =>
          rw [hlast, if_pos rfl] at hend
          rw [hend, List.append_nil] at hsplit
          rw [delivered_of_isLast _ hlast]
          refine ⟨before', hpaged.quiet hquiet, ?_⟩
          simp only [Extends]
          exact hpaged.front.eq_of_length_le (hsplit ▸ hlonger.length_le)
      | false =>
          rw [hlast, if_neg Bool.false_ne_true] at hend
          obtain ⟨last, hgetLast⟩ : ∃ last, state.page.servers.getLast? = some last :=
            ⟨_, List.getLast?_eq_some_getLast hend⟩
          rw [delivered_of_getLast? hlast hgetLast]
          refine ⟨before', hpaged.quiet hquiet, ?_⟩
          simp only [Extends]
          exact ⟨past ++ state.page.servers, hlonger, by simp [Master.cursorAfter, hgetLast]⟩
  | pauseStopped phase set => exact ⟨before, hknown.quiet (History.quiet_delay _ _), trivial⟩
  | proceedStopped phase clear set => exact ⟨before, known_readied hknown _ _, trivial⟩
  | retried phase clear exchanges transport left =>
      simp only [Extends, phase] at hextends
      obtain ⟨past, hpast, hcursor⟩ := hextends
      obtain ⟨hafter, -⟩ := (hcursor ▸ exchanges).known (known_readied hknown _ _) hpast hrecalls
      refine ⟨before, hafter.quiet (.singleton rfl), ?_⟩
      simp only [Extends, phase]
      exact ⟨past, hpast, hcursor⟩
  | proceedFailed phase clear exchanges final =>
      simp only [Extends, phase] at hextends
      obtain ⟨past, hpast, hcursor⟩ := hextends
      obtain ⟨hafter, -⟩ := (hcursor ▸ exchanges).known (known_readied hknown _ _) hpast hrecalls
      exact gapless_afterFault hafter _ _
  | proceeded phase clear exchanges =>
      simp only [Extends, phase] at hextends
      obtain ⟨past, hpast, hcursor⟩ := hextends
      obtain ⟨hafter, hanswers⟩ :=
        (hcursor ▸ exchanges).known (known_readied hknown _ _) hpast hrecalls
      obtain ⟨next, hnext, hextends⟩ := extends_answered hafter (hanswers _ rfl) state
      rw [hnext]
      exact ⟨before, hafter.quiet (quiet_decodeEvents _ _), hextends⟩
  | rested phase => simp [phase] at hfinished

/-! ## whole listings -/

/-- **No server is lost on a listing that ends well, whatever the network does to replies.**  At
every moment of every listing a front of the master's servers was delivered, each query goes on
after a front that was delivered before, and a listing that is done has delivered all servers. -/
theorem run_covers (listing : Listing) (master : Master) (scenario : Scenario) (cancellable : Bool)
    (listener : Listener Play) (browser : Browser) (limit : Nat)
    (hrecalls : master.Recalls scenario 0) (hreads : listener.Reads 0) :
    ∃ result browser' history',
      listing.run (scenario.world cancellable) listener limit browser [] =
        ((result, browser'), history') ∧
      Causal master 0 history' ∧
      ∀ state, result = .ok state →
        state.phase = .done ∧ (history'.traffic 0).Covers master.servers := by
  have hopened : Known master 0 [] (listing.opened []) := by
    rw [opened, List.append_assoc]
    exact known_nil.quiet ((History.Quiet.singleton rfl).append (.singleton rfl))
  cases hopen : scenario.connect (listing.opened []) with
  | error fault =>
      exact ⟨_, _, _, run_play_error listing scenario cancellable listener hopen, hopened.toCausal,
        by simp⟩
  | ok =>
      obtain ⟨result, browser', history', hsteps, hholds⟩ :=
        listing.steps_induction scenario cancellable listener 0
          (fun state _ history => Gapless master 0 state history)
          (fun _ _ history => ∃ before, Known master 0 before history)
          (fun hkept hfinished hmove => hkept.move hrecalls hreads hfinished hmove) limit browser
          (show Gapless master 0 listing.initial (listing.opened []) from ⟨[], hopened, trivial⟩)
      have hrun := run_play listing scenario cancellable listener [] hopen hsteps
      have hquiet := quiet_closing listing 0 0 result
      cases result with
      | error fault =>
          obtain ⟨before, hknown⟩ | ⟨-, final, before, hknown, -⟩ := hholds
          · exact ⟨_, _, _, hrun, (hknown.quiet hquiet).toCausal, by simp [Except.bind]⟩
          · exact ⟨_, _, _, hrun, (hknown.quiet hquiet).toCausal, by simp [Except.bind]⟩
      | ok final =>
          obtain ⟨hfinished, before, hknown, hextends⟩ := hholds
          have hclosed := hknown.quiet hquiet
          refine ⟨_, _, _, hrun, hclosed.toCausal, fun state hstate => ?_⟩
          obtain ⟨hdone, rfl⟩ := done_of_outcome hfinished hstate
          simp only [Extends, hdone] at hextends
          exact ⟨hdone, hextends ▸ hclosed.covers⟩

/-- Two servers over a network that repeats an old reply. -/
theorem run_covers_repeatingLink :
    ∃ result browser' history',
      run ⟨.text "master:27011", [], .standard⟩ (Master.pair.repeatingLink.world true)
          (.always []) 10 {} [] =
        ((result, browser'), history') ∧
      Causal Master.pair 0 history' ∧
      ∀ state, result = .ok state →
        state.phase = .done ∧ (history'.traffic 0).Covers Master.pair.servers :=
  run_covers _ _ _ _ _ _ _ Master.pair.recalls_repeatingLink (Listener.reads_always 0)

end Listing

end ServerBrowser
