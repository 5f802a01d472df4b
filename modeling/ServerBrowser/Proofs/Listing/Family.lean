import ServerBrowser.Proofs.Listing.Trace
import ServerBrowser.Proofs.Master
import ServerBrowser.Proofs.Transport.Delays

/-!
# ServerBrowser.Proofs.Listing.Family

Which listings end with a fault of the family of failed queries, if with any.  Over a transport that
fails with such faults only, a listing can still leave the family in one place: after a page that is
not the last, where it continues from what its listener left.  A page that is left empty has no last
server to continue from, a delay that is too large is refused by the clock of the system, and a
server whose text is not ASCII has no query.

So a listing stays in the family exactly where opening its socket does and each delivery on its way
leaves a server to go on after, in a time that can be waited (`run_isExpected_iff`).  A listener that
always leaves one (`Listener.LeavesCursors`) keeps every listing in the family whose delay is one
that the clock keeps.
-/

namespace ServerBrowser

open Scenario

/-! ## what can be asked and decoded -/

/-- Whether a query can go on after a server: its text is ASCII. -/
def ServerAddress.IsCursor (server : ServerAddress) : Prop :=
  Text.nonAscii? server.text.toList = none

theorem ServerAddress.isCursor_null : null.IsCursor := by
  rw [IsCursor]
  decide +kernel

theorem Query.toBytes_of_ascii {query : Query} (h : Text.nonAscii? query.cursor.toList = none) :
    ∃ packet, query.toBytes = .ok packet := by
  simp [toBytes, Packet.cstring, Text.asciiBytes, h, Except.map]

theorem Query.toBytes_of_nonAscii {query : Query} {run : Text.NonAscii}
    (h : Text.nonAscii? query.cursor.toList = some run) :
    query.toBytes = .error (.nonAscii run) := by
  simp [toBytes, Packet.cstring, Text.asciiBytes, h, Except.map]

/-- Whether a page can arrive: some packet that a socket receives whole is parsed as it. -/
def Page.Arrives (page : Page) : Prop :=
  ∃ packet, packet.length ≤ DatagramSocket.receiveLimit ∧ Response.parse packet = .ok page

/-! ## what is asked of a listener -/

/-- A listener that, unless it fails, leaves a server to continue from of each page that can arrive
and is not the last. -/
def Listener.LeavesCursors (listener : Listener Play) : Prop :=
  ∀ page : Page, page.Arrives → page.isLast = false →
    Yields (listener page.servers)
      (Ends (fun left => ∃ last, left.getLast? = some last ∧ last.IsCursor) fun _ => True)

/-- The address of a record can be continued from. -/
theorem ServerAddress.IsRecord.isCursor {server : ServerAddress} (h : server.IsRecord) :
    server.IsCursor :=
  (Text.nonAscii?_eq_none_iff _).2 fun c hc => by
    have hbounds := ServerAddress.bounds_of_mem_text h hc
    rw [Text.isAscii, decide_eq_true_eq]
    omega

/-- A listener that hands its pages back as they are leaves a server to continue from. -/
theorem Listener.leavesCursors_of_yields {listener : Listener Play}
    (h : ∀ page, Yields (listener page) (· = .ok page)) : listener.LeavesCursors := by
  rintro page ⟨packet, -, hparse⟩ hlast
  obtain ⟨hrecords, hne⟩ := Response.parse_eq_ok hparse
  refine (h page.servers).mono fun left hleft => ?_
  subst hleft
  exact ⟨_, List.getLast?_eq_some_getLast (hne hlast),
    (hrecords _ (List.getLast_mem (hne hlast))).isCursor⟩

theorem Listener.Reads.leavesCursors {listener : Listener Play} {socket : Nat}
    (h : listener.Reads socket) : listener.LeavesCursors :=
  leavesCursors_of_yields fun page browser history => by
    obtain ⟨browser', more, hplay, -⟩ := h page browser history
    rw [hplay]

namespace Listing

variable {S : Type} {listing : Listing} {world : Surroundings Play S} {listener : Listener Play}
  {socket : S} {state : State}

/-! ## steps -/

/-- Whether the delays of a listing are never refused. -/
def Rests (listing : Listing) (world : Surroundings Play S) : Prop :=
  ∀ fault, ¬ world.Refuses listing.settings.retryDelay fault

/-- What keeps a listing in the family: the page at hand has arrived, the next query can be written
after a delay that is kept, and the fault that has ended the listing is one of the family. -/
def Familiar (listing : Listing) (world : Surroundings Play S) (state : State) : Prop :=
  match state.phase with
  | .delivering => state.page.Arrives
  | .continuing => state.cursor.IsCursor ∧ listing.Rests world
  | .failed => ∃ fault, state.lastFault = some fault ∧ fault.inFamily = true
  | .start | .awaiting | .done => True

theorem yields_checkCancelled (world : Surroundings Play S) :
    Yields (checkCancelled world).run (EndsInFamily fun _ => True) := by
  unfold checkCancelled
  cases world.cancel with
  | none => exact .pure trivial
  | some signal =>
      refine .bind_run (Yields.trivial _).lift (fun set _ => ?_) fun _ => id
      cases set with
      | true => exact .pure rfl
      | false => exact .pure trivial

/-- A pause ends with a fault of the family, or with one of a delay that is refused. -/
theorem yields_pause (listing : Listing) (world : Surroundings Play S) :
    Yields (listing.pause world).run (Ends (fun _ => True) fun fault =>
      fault.inFamily = true ∨ world.Refuses listing.settings.retryDelay fault) := by
  unfold pause
  cases hcancel : world.cancel with
  | none =>
      intro browser history
      show Ends _ _ (world.sleep listing.settings.retryDelay browser history).1.1
      cases hanswer : (world.sleep listing.settings.retryDelay browser history).1.1 with
      | ok => trivial
      | error fault => exact .inr (.slept hcancel browser history hanswer)
  | some signal =>
      have hwait : Yields (ExceptT.mk (signal.wait listing.settings.retryDelay) :
          ExceptT Fault Play Bool).run (Ends (fun _ => True) fun fault =>
            fault.inFamily = true ∨ world.Refuses listing.settings.retryDelay fault) := by
        intro browser history
        show Ends _ _ (signal.wait listing.settings.retryDelay browser history).1.1
        cases hanswer : (signal.wait listing.settings.retryDelay browser history).1.1 with
        | ok => trivial
        | error fault => exact .inr (.waited signal hcancel browser history hanswer)
      refine Yields.bind_run hwait (fun set _ => ?_) fun _ => id
      cases set with
      | true => exact .pure (.inl rfl)
      | false => exact .pure trivial

theorem Rests.yields_pause (h : listing.Rests world) :
    Yields (listing.pause world).run (EndsInFamily fun _ => True) := by
  refine (Listing.yields_pause listing world).mono ?_
  rintro (fault | _) hends
  · exact hends.resolve_right (h fault)
  · trivial

theorem yields_ask (hworld : world.transport.InFamily) {cursor : ServerAddress}
    (hcursor : cursor.IsCursor) :
    Yields (listing.ask world socket cursor).run (EndsInFamily fun _ => True) := by
  obtain ⟨packet, hpacket⟩ := (listing.query cursor).toBytes_of_ascii hcursor
  rw [ask, hpacket]
  exact .bind_ok (.pure rfl) (hworld.send socket packet)

theorem yields_decode (state : State) {packet : List UInt8}
    (hsize : packet.length ≤ DatagramSocket.receiveLimit) :
    Yields (decode world state packet).run (EndsInFamily (listing.Familiar world)) := by
  unfold decode
  refine .bind_ok (.forM _) ?_
  cases hpage : Response.parse packet with
  | error fault => exact .bind_error (.pure rfl) (Response.inFamily_of_parse hpage)
  | ok page =>
      refine .bind_ok (.pure rfl) (.bind_run (.lift (.trivial _)) (fun _ _ => ?_) fun _ => id)
      exact .pure ⟨packet, hsize, hpage⟩

theorem yields_exchange (hworld : world.transport.InFamily) (hcursor : state.cursor.IsCursor) :
    Yields (listing.exchange world socket state).run
      (EndsInFamily (·.length ≤ DatagramSocket.receiveLimit)) := by
  unfold exchange
  exact .bind_run (yields_ask hworld hcursor) (fun _ _ => hworld.receive socket) fun _ => id

theorem yields_proceed (hworld : world.transport.InFamily) (phase : state.phase = .continuing)
    (hcursor : state.cursor.IsCursor) (hrests : listing.Rests world) :
    Yields (listing.proceed world socket state).run (EndsInFamily (listing.Familiar world)) := by
  unfold proceed
  refine .bind_run hrests.yields_pause (fun _ _ => ?_) fun _ => id
  refine .bind_run (yields_checkCancelled world) (fun _ _ => ?_) fun _ => id
  refine (yields_exchange hworld hcursor).lift_never.bind_run (fun result hresult => ?_)
    fun _ => False.elim
  cases result with
  | ok packet => exact yields_decode state hresult
  | error fault =>
      by_cases hretry : fault.isTransport = true ∧ 0 < state.retriesLeft
      · simp only [if_pos hretry]
        refine .bind_run (.lift (.trivial _)) (fun _ _ => .pure ?_) fun _ => id
        simpa only [Ends, Familiar, phase] using ⟨hcursor, hrests⟩
      · simp only [if_neg hretry]
        exact .pure hresult

/-- From a state that keeps a listing in the family, whatever it does but deliver leads to such a
state or to a fault of the family. -/
theorem yields_transition (hworld : world.transport.InFamily) (h : listing.Familiar world state)
    (hdelivering : state.phase ≠ .delivering) :
    Yields (listing.transition world listener socket state).run
      (EndsInFamily (listing.Familiar world)) := by
  unfold transition
  cases phase : state.phase with
  | start =>
      refine .bind_run (yields_checkCancelled world) (fun _ _ => ?_) fun _ => id
      refine .bind_run (yields_ask hworld ServerAddress.isCursor_null) (fun _ _ => ?_) fun _ => id
      exact .pure trivial
  | awaiting =>
      refine .bind_run (hworld.receive socket) (fun packet hsize => ?_) fun _ => id
      exact yields_decode state hsize
  | delivering => exact absurd phase hdelivering
  | continuing =>
      simp only [Familiar, phase] at h
      exact yields_proceed hworld phase h.1 h.2
  | done | failed => exact .pure h

/-- A fault of the family ends a listing in the family. -/
theorem familiar_endedBy (listing : Listing) (world : Surroundings Play S) {fault : Fault}
    (h : fault.inFamily = true) :
    listing.Familiar world (state.endedBy fault) :=
  ⟨fault, rfl, h⟩

/-- No fault leaves such a step: the faults of the family end the listing. -/
theorem yields_step (hworld : world.transport.InFamily) (h : listing.Familiar world state)
    (hdelivering : state.phase ≠ .delivering) :
    Yields (listing.step world listener socket state)
      (Ends (listing.Familiar world) fun _ => False) := by
  unfold step
  refine (yields_transition hworld h hdelivering).bind fun result hresult => ?_
  cases result with
  | ok next => exact .pure hresult
  | error fault =>
      have hfamily : fault.inFamily = true := hresult
      refine .pure ?_
      rw [State.afterFault, if_pos hfamily]
      exact listing.familiar_endedBy world hfamily

/-! ## deliveries -/

section Scenario

variable {scenario : Scenario} {cancellable : Bool} {transport : Transport Play S}
  {browser browser' browser'' : Browser} {history history' history'' : History} {count : Nat}

/-- Whether a listing can continue after a server.  The clock has to keep the delay, unless the
cancel signal ends it; and the text of the server has to be ASCII, unless the signal stops the
listing before it asks. -/
def MayContinue (listing : Listing) (scenario : Scenario) (cancellable : Bool)
    (server : ServerAddress) (history : History) : Prop :=
  (scenario.stops cancellable (history ++ delay cancellable listing.settings.retryDelay) = false →
    Clock.system.delayFault? cancellable listing.settings.retryDelay = none) ∧
  (listing.Clear scenario cancellable history → server.IsCursor)

/-- Whether a listing can go on after the delivery that it is at: unless the listener fails or the
page is the last one, it leaves a server to continue after. -/
def GoesOn (listing : Listing) (scenario : Scenario) (cancellable : Bool)
    (listener : Listener Play) (state : State) (browser : Browser) (history : History) : Prop :=
  state.phase = .delivering → state.page.isLast = false → ∀ left browser' history',
    listener state.page.servers browser history = ((.ok left, browser'), history') →
      ∃ last, left.getLast? = some last ∧
        listing.MayContinue scenario cancellable last history'

/-- What keeps a listing in the family at a moment of its history: it may always be continued, or
the next attempt does not leave the family. -/
def Secure (listing : Listing) (scenario : Scenario) (transport : Transport Play S)
    (cancellable : Bool) (state : State) (history : History) : Prop :=
  listing.Familiar (scenario.timed transport cancellable) state ∨
    state.phase = .continuing ∧ listing.MayContinue scenario cancellable state.cursor history

/-- A listing that is over is in the family. -/
theorem Secure.familiar (h : listing.Secure scenario transport cancellable state history)
    (hfinished : state.isFinished = true) :
    listing.Familiar (scenario.timed transport cancellable) state := by
  obtain hfamiliar | ⟨phase, -⟩ := h
  · exact hfamiliar
  · simp [State.isFinished, phase] at hfinished

/-- A step that continues begins with a delay. -/
theorem transition_of_continuing (listing : Listing) (world : Surroundings Play S)
    (listener : Listener Play) (socket : S) (phase : state.phase = .continuing) :
    listing.transition world listener socket state = listing.proceed world socket state := by
  rw [transition, phase]

/-- A listing that the cancel signal stops does not ask. -/
theorem step_stopped (phase : state.phase = .continuing)
    (hkept : scenario.stops cancellable
        (history ++ delay cancellable listing.settings.retryDelay) = false →
      Clock.system.delayFault? cancellable listing.settings.retryDelay = none)
    (h : ¬ listing.Clear scenario cancellable history) :
    ∃ history', listing.step (scenario.timed transport cancellable) listener socket state
      browser history = ((.ok (state.endedBy .queryCancelled), browser), history') := by
  have htransition := transition_of_continuing listing (scenario.timed transport cancellable)
    listener socket phase
  have hpause := scenario.pause_rests transport cancellable .system listing browser history
  have hcheck := scenario.checkCancelled_play transport cancellable browser
    (history ++ delay cancellable listing.settings.retryDelay) .system
  cases hset : scenario.stops cancellable
      (history ++ delay cancellable listing.settings.retryDelay) with
  | true =>
      rw [rests, hset, if_pos rfl] at hpause
      exact ⟨_, step_play _ (by rw [htransition, proceed, run_bind_error hpause])⟩
  | false =>
      rw [rests, hset, if_neg Bool.false_ne_true, hkept hset] at hpause
      cases hlook : scenario.stops cancellable (listing.readied cancellable history) with
      | true =>
          rw [← readied, hlook, if_pos rfl] at hcheck
          exact ⟨_, step_play _
            (by rw [htransition, proceed, run_bind_ok hpause, run_bind_error hcheck])⟩
      | false => exact absurd ⟨hset, hlook⟩ h

/-- A delay that the clock refuses ends the step as it is, unless the signal ends it before. -/
theorem step_refused {fault : Fault} (phase : state.phase = .continuing)
    (hset : scenario.stops cancellable
      (history ++ delay cancellable listing.settings.retryDelay) = false)
    (h : Clock.system.delayFault? cancellable listing.settings.retryDelay = some fault) :
    ∃ history', listing.step (scenario.timed transport cancellable) listener socket state
      browser history = ((.error fault, browser), history') := by
  have htransition := transition_of_continuing listing (scenario.timed transport cancellable)
    listener socket phase
  have hpause := scenario.pause_rests transport cancellable .system listing browser history
  rw [rests, hset, if_neg Bool.false_ne_true, h] at hpause
  have hleaves : ¬ fault.inFamily = true := fun hfamily => Clock.system_leaves h (.inl hfamily)
  have hsettle : state.settle (.error fault) = .error fault := by
    rw [State.settle, State.afterFault, if_neg hleaves]
  have hplay : (listing.transition (scenario.timed transport cancellable) listener socket state).run
      browser history =
        ((.error fault, browser), history ++ delay cancellable listing.settings.retryDelay) := by
    rw [htransition, proceed, run_bind_error hpause]
  have hstep := step_play _ hplay
  rw [hsettle] at hstep
  exact ⟨_, hstep⟩

/-- A listing that nothing stops cannot ask for what follows a server whose text is not ASCII, and
leaves the family. -/
theorem step_nonAscii {run : Text.NonAscii} (phase : state.phase = .continuing)
    (h : listing.Clear scenario cancellable history)
    (hkept : Clock.system.delayFault? cancellable listing.settings.retryDelay = none)
    (hcursor : Text.nonAscii? state.cursor.text.toList = some run) :
    ∃ history', listing.step (scenario.timed transport cancellable) listener socket state
      browser history = ((.error (.nonAscii run), browser), history') := by
  have htransition := transition_of_continuing listing (scenario.timed transport cancellable)
    listener socket phase
  have hpause := scenario.pause_rests transport cancellable .system listing browser history
  have hcheck := scenario.checkCancelled_play transport cancellable browser
    (history ++ delay cancellable listing.settings.retryDelay) .system
  rw [rests, h.1, if_neg Bool.false_ne_true, hkept] at hpause
  rw [← readied, h.2, if_neg Bool.false_ne_true] at hcheck
  have hquery := (listing.query state.cursor).toBytes_of_nonAscii hcursor
  have hexchange : (listing.exchange (scenario.timed transport cancellable) socket
      state).run browser (listing.readied cancellable history) =
        ((.error (.nonAscii run), browser), listing.readied cancellable history) := by
    rw [exchange, ask, hquery]
    rfl
  refine ⟨listing.readied cancellable history, step_play (.error (.nonAscii run)) ?_⟩
  rw [htransition, proceed, run_bind_ok hpause, run_bind_ok hcheck,
    run_bind_ok (lift_play hexchange)]
  rfl

/-- A step from a state that keeps a listing in the family leads to such a state, unless it delivers
a page. -/
theorem secure_of_familiar {result : Except Fault State}
    (h : listing.Familiar (scenario.timed transport cancellable) state)
    (htransport : transport.InFamily) (hdelivering : state.phase ≠ .delivering)
    (hstep : listing.step (scenario.timed transport cancellable) listener socket state
      browser history = ((result, browser'), history')) :
    ∃ next, result = .ok next ∧
      listing.Secure scenario transport cancellable next history' := by
  have hnext : Ends (listing.Familiar (scenario.timed transport cancellable)) (fun _ => False)
      (listing.step (scenario.timed transport cancellable) listener socket state browser
        history).1.1 :=
    yields_step htransport h hdelivering browser history
  rw [hstep] at hnext
  cases result with
  | ok next => exact ⟨next, rfl, .inl hnext⟩
  | error fault => exact False.elim hnext

/-- **A step is secure** unless it delivers a page after which the listing cannot go on. -/
theorem Secure.step {result : Except Fault State}
    (h : listing.Secure scenario transport cancellable state history)
    (htransport : transport.InFamily)
    (hgoes : listing.GoesOn scenario cancellable listener state browser history)
    (hstep : listing.step (scenario.timed transport cancellable) listener socket state
      browser history = ((result, browser'), history')) :
    ∃ next, result = .ok next ∧
      listing.Secure scenario transport cancellable next history' := by
  obtain hfamiliar | ⟨phase, hcontinues⟩ := h
  · by_cases phase : state.phase = .delivering
    · obtain ⟨handed, browser'', history'', hlistens⟩ :=
        exists_play (listener state.page.servers) browser history
      cases (step_deliver phase hlistens).symm.trans hstep
      cases handed with
      | error fault => exact ⟨_, rfl, .inl (listing.familiar_endedBy _ rfl)⟩
      | ok left =>
          rw [handedBack, settle_delivered]
          cases hlast : state.page.isLast with
          | true => exact ⟨_, delivered_of_isLast left hlast, .inl trivial⟩
          | false =>
              obtain ⟨last, hleft, hcontinues⟩ := hgoes phase hlast left _ _ hlistens
              exact ⟨_, delivered_of_getLast? hlast hleft, .inr ⟨rfl, hcontinues⟩⟩
    · exact secure_of_familiar hfamiliar htransport phase hstep
  · by_cases hclear : listing.Clear scenario cancellable history
    · have hfamiliar : listing.Familiar (scenario.timed transport cancellable) state := by
        rw [Familiar, phase]
        exact ⟨hcontinues.2 hclear, Clock.not_refuses (hcontinues.1 hclear.1) scenario transport⟩
      exact secure_of_familiar hfamiliar htransport (by simp [phase]) hstep
    · obtain ⟨history'', hplay⟩ := step_stopped phase hcontinues.1 hclear
      cases hplay.symm.trans hstep
      exact ⟨_, rfl, .inl (listing.familiar_endedBy _ rfl)⟩

/-! ## whole listings -/

/-- A listing goes on after each delivery on its way. -/
def GoesOnThroughout (listing : Listing) (scenario : Scenario) (cancellable : Bool)
    (transport : Transport Play S) (listener : Listener Play) (browser : Browser)
    (history : History) : Prop :=
  ∀ count socket state browser' history',
    listing.trace (scenario.timed transport cancellable) listener count browser history =
        ((.ok (socket, state), browser'), history') →
      listing.GoesOn scenario cancellable listener state browser' history'

/-- A trace is secure as long as each delivery from a secure state is one that the listing goes on
after. -/
theorem secure_trace (htransport : transport.InFamily)
    (hgoes : ∀ count socket state browser' history',
      listing.trace (scenario.timed transport cancellable) listener count browser history =
          ((.ok (socket, state), browser'), history') →
        listing.Secure scenario transport cancellable state history' →
          listing.GoesOn scenario cancellable listener state browser' history')
    (h : listing.trace (scenario.timed transport cancellable) listener count browser
      history = ((.ok (socket, state), browser'), history')) :
    listing.Secure scenario transport cancellable state history' := by
  induction count generalizing state browser' history' with
  | zero =>
      obtain rfl := eq_initial_of_trace_zero h
      exact .inl trivial
  | succ count ih =>
      obtain ⟨previous, browser₁, history₁, htrace, hstep⟩ := step_of_trace_succ h
      have hprevious := ih htrace
      obtain ⟨next, hnext, hsecure⟩ :=
        hprevious.step htransport (hgoes _ _ _ _ _ htrace hprevious) hstep
      cases hnext
      exact hsecure

/-- A listener that leaves a server to continue from of every page has a listing go on throughout
whose delay the clock keeps. -/
theorem goesOnThroughout_of_leavesCursors (htransport : transport.InFamily)
    (hlistener : listener.LeavesCursors)
    (hkept : Clock.system.delayFault? cancellable listing.settings.retryDelay = none) :
    listing.GoesOnThroughout scenario cancellable transport listener browser history := by
  have hgoes : ∀ state browser' history',
      listing.Secure scenario transport cancellable state history' →
        listing.GoesOn scenario cancellable listener state browser' history' := by
    intro state browser' history' hsecure phase hlast left browser'' history'' hlistens
    obtain hfamiliar | ⟨hcontinuing, -⟩ := hsecure
    · simp only [Familiar, phase] at hfamiliar
      have hleaves := hlistener state.page hfamiliar hlast browser' history'
      rw [hlistens] at hleaves
      obtain ⟨last, hleft, hcursor⟩ := hleaves
      exact ⟨last, hleft, fun _ => hkept, fun _ => hcursor⟩
    · cases phase.symm.trans hcontinuing
  intro count socket state browser' history' htrace
  exact hgoes _ _ _ (secure_trace htransport (fun _ _ _ _ _ _ => hgoes _ _ _) htrace)

/-- From anywhere on a trace that goes on throughout, the steps that are left end in the family. -/
theorem GoesOnThroughout.steps
    (h : listing.GoesOnThroughout scenario cancellable transport listener browser history)
    (htransport : transport.InFamily) (limit : Nat)
    (htrace : listing.trace (scenario.timed transport cancellable) listener count browser
      history = ((.ok (socket, state), browser'), history')) :
    Ends (listing.Familiar (scenario.timed transport cancellable)) (· = .exhausted)
      (listing.steps (scenario.timed transport cancellable) listener socket limit state
        browser' history').1.1 := by
  have hsecure := secure_trace htransport (fun _ _ _ _ _ htrace _ => h _ _ _ _ _ htrace) htrace
  induction limit generalizing count state browser' history' with
  | zero =>
      cases hfinished : state.isFinished with
      | true =>
          rw [steps_of_finished hfinished]
          exact hsecure.familiar hfinished
      | false =>
          rw [steps_zero hfinished]
          rfl
  | succ limit ih =>
      cases hfinished : state.isFinished with
      | true =>
          rw [steps_of_finished hfinished]
          exact hsecure.familiar hfinished
      | false =>
          obtain ⟨result, browser₁, history₁, hstep⟩ := exists_play (listing.step
            (scenario.timed transport cancellable) listener socket state) browser' history'
          obtain ⟨next, rfl, hnext⟩ := hsecure.step htransport (h _ _ _ _ _ htrace) hstep
          rw [steps_of_ok hfinished hstep]
          exact ih (trace_succ_of_ok htrace hstep) hnext

/-- A listing that ends in the family has a fault of the family as its outcome, if any. -/
theorem endsExpectedly_outcome (h : listing.Familiar world state) :
    EndsExpectedly (outcome state) := by
  by_cases phase : state.phase = .failed
  · simp only [Familiar, phase] at h
    obtain ⟨fault, hlast, hfamily⟩ := h
    rw [outcome, if_pos phase, hlast]
    exact .inl hfamily
  · rw [outcome, if_neg phase]
    trivial

/-- What leaves a step leaves the run. -/
theorem isExpected_of_step {fault : Fault}
    (hrun : ∀ limit, EndsExpectedly (listing.run world listener limit browser history).1.1)
    (htrace : listing.trace world listener count browser history =
      ((.ok (socket, state), browser'), history')) (hfinished : state.isFinished = false)
    (hstep : listing.step world listener socket state browser' history' =
      ((.error fault, browser''), history'')) : fault.IsExpected := by
  obtain ⟨browser₁, history₁, hopen⟩ := trace_zero_of_trace htrace
  have hsteps := (steps_of_trace hopen htrace hfinished 1).trans (steps_of_error hfinished hstep)
  have hends := hrun (count + 1)
  rw [run_of_trace hopen hsteps] at hends
  exact hends

/-- A listing whose runs stay in the family goes on throughout: a page that is left empty leaves the
step; a delay that is refused, or a server whose text is not ASCII, leaves the one after it. -/
theorem goesOnThroughout_of_run
    (hrun : ∀ limit, EndsExpectedly (listing.run (scenario.timed transport cancellable)
      listener limit browser history).1.1) :
    listing.GoesOnThroughout scenario cancellable transport listener browser history := by
  intro count socket state browser' history' htrace phase hlast left browser'' history'' hlistens
  have hfinished : state.isFinished = false := by simp [State.isFinished, phase]
  have hdeliver : listing.step (scenario.timed transport cancellable) listener socket state
      browser' history' = ((listing.delivered state left, browser''), history'') := by
    rw [step_deliver phase hlistens, handedBack, settle_delivered]
  cases hleft : left.getLast? with
  | none =>
      rw [List.getLast?_eq_none_iff] at hleft
      rw [hleft, delivered_nil hlast] at hdeliver
      have hexpected := isExpected_of_step hrun htrace hfinished hdeliver
      exact absurd hexpected (by simp [Fault.IsExpected]; rfl)
  | some last =>
      obtain ⟨next, hnext, hphase, rfl⟩ : ∃ next, listing.delivered state left = .ok next ∧
          next.phase = .continuing ∧ next.cursor = last :=
        ⟨_, delivered_of_getLast? hlast hleft, rfl, rfl⟩
      rw [hnext] at hdeliver
      have hunfinished : next.isFinished = false := by simp [State.isFinished, hphase]
      have hexpected {fault : Fault} {history₁ : History}
          (hstep : listing.step (scenario.timed transport cancellable) listener socket next
            browser'' history'' = ((.error fault, browser''), history₁)) : fault.IsExpected :=
        isExpected_of_step hrun (trace_succ_of_ok htrace hdeliver) hunfinished hstep
      have hkept (hset : scenario.stops cancellable
          (history'' ++ delay cancellable listing.settings.retryDelay) = false) :
          Clock.system.delayFault? cancellable listing.settings.retryDelay = none := by
        refine Option.eq_none_iff_forall_ne_some.2 fun fault hfault => ?_
        obtain ⟨history₁, hstep⟩ := step_refused hphase hset hfault
        exact Clock.system_leaves hfault (hexpected hstep)
      refine ⟨_, rfl, hkept, fun hclear => ?_⟩
      cases hcursor : Text.nonAscii? next.cursor.text.toList with
      | none => exact hcursor
      | some run =>
          obtain ⟨history₁, hstep⟩ := step_nonAscii hphase hclear (hkept hclear.1) hcursor
          exact absurd (hexpected hstep) (by simp [Fault.IsExpected]; rfl)

/-- **A listing stays in the family exactly where opening its socket does and the listing goes on
after each delivery on its way.** -/
theorem run_isExpected_iff (htransport : transport.InFamily) :
    (∀ limit, EndsExpectedly (listing.run (scenario.timed transport cancellable) listener
        limit browser history).1.1) ↔
      EndsExpectedly (listing.trace (scenario.timed transport cancellable) listener 0 browser
          history).1.1 ∧
        listing.GoesOnThroughout scenario cancellable transport listener browser history := by
  obtain ⟨opened, browser₀, history₀, -, hopen⟩ := trace_zero listing
    (scenario.timed transport cancellable) listener browser history
  cases opened with
  | error fault =>
      have hrun : ∀ limit, listing.run (scenario.timed transport cancellable) listener limit
          browser history = ((.error fault, browser₀), history₀) :=
        fun _ => run_of_trace_error hopen
      simp only [hrun, hopen, Except.map]
      refine ⟨fun h => ⟨h 0, ?_⟩, fun h _ => h.1⟩
      intro count socket state browser' history' htrace
      obtain ⟨_, _, hzero⟩ := trace_zero_of_trace htrace
      cases hopen.symm.trans hzero
  | ok socket =>
      rw [hopen]
      refine ⟨fun h => ⟨trivial, goesOnThroughout_of_run h⟩, fun h limit => ?_⟩
      obtain ⟨result, browser', history', hsteps⟩ := exists_play (listing.steps
        (scenario.timed transport cancellable) listener socket limit listing.initial)
        browser₀ history₀
      have hends := h.2.steps htransport limit hopen
      rw [hsteps] at hends
      rw [run_of_trace hopen hsteps]
      cases result with
      | error fault => exact .inr hends
      | ok final => exact endsExpectedly_outcome hends

end Scenario

end Listing

end ServerBrowser
