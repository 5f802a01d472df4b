import ServerBrowser.Proofs.Lifted
import ServerBrowser.Proofs.Listing.Requests
import ServerBrowser.Proofs.Listing.Supply
import ServerBrowser.Proofs.Yields

/-!
# ServerBrowser.Proofs.Listing.Gathering

What a listener has gathered that keeps its pages and does nothing else.  A listing over a script
hands on exactly the pages of the packets that are decoded on its socket, each once and in their
order, and counts their servers; it succeeds exactly if the last of them is a last page
(`run_gathers`).  This holds for every number of steps that is enough for the script.

`Gathers` says phase by phase what has been handed on so far: all decoded pages, but for the one
that is to be delivered.
-/

namespace ServerBrowser

open Scenario

/-- The listener that keeps all pages, and does nothing else. -/
def Listener.recorder {m : Type → Type} [Monad m] :
    Listener (StateT (List (List ServerAddress)) m) := fun page => do
  modify (· ++ [page])
  return .ok page

/-! ## decoded pages -/

namespace History

/-- The pages of the packets that were received on a socket. -/
def decoded (socket : Nat) (history : History) : List Page :=
  history.filterMap fun event => match event with
    | .received other packet => if other = socket then (Response.parse packet).toOption else none
    | _ => none

/-- Whether the page that was decoded last on a socket is a last page. -/
def IsComplete (socket : Nat) (history : History) : Prop :=
  ∃ page, (history.decoded socket).getLast? = some page ∧ page.isLast = true

variable {socket : Nat} {history history' history'' more : History} {pages pages' : List Page}

theorem decoded_append (socket : Nat) (first second : History) :
    (first ++ second).decoded socket = first.decoded socket ++ second.decoded socket :=
  List.filterMap_append

/-- Where nothing is received on a socket there is no page. -/
theorem decoded_eq_nil (h : ∀ packet, .received socket packet ∉ more) :
    more.decoded socket = [] := by
  rw [decoded, List.filterMap_eq_nil_iff]
  intro event hevent
  cases event with
  | received other packet =>
      have hother : other ≠ socket := by
        rintro rfl
        exact h packet hevent
      simp [hother]
  | _ => rfl

theorem Silent.decoded (h : more.Silent) (socket : Nat) : more.decoded socket = [] :=
  decoded_eq_nil fun packet hmem => by cases h _ hmem

/-- The events of a listing open no socket. -/
theorem Own.socketCount (h : Own socket more) : more.socketCount = 0 := by
  rw [History.socketCount, List.countP_eq_zero]
  intro event hevent
  have := h event hevent
  cases event <;> simp_all [Event.isOwn]

/-- Whether a history goes on with events of a listing over a socket, among them packets with the
given pages. -/
def Adds (socket : Nat) (pages : List Page) (history history' : History) : Prop :=
  ∃ more, history' = history ++ more ∧ Own socket more ∧ more.decoded socket = pages

theorem Adds.trans (h : Adds socket pages history history')
    (h' : Adds socket pages' history' history'') :
    Adds socket (pages ++ pages') history history'' := by
  obtain ⟨first, rfl, hfirst, hpages⟩ := h
  obtain ⟨second, rfl, hsecond, hpages'⟩ := h'
  refine ⟨first ++ second, List.append_assoc .., hfirst.append hsecond, ?_⟩
  rw [decoded_append, hpages, hpages']

/-- A history that goes on without packets. -/
theorem Adds.of_silent (hown : Own socket more) (hsilent : more.Silent) :
    Adds socket [] history (history ++ more) :=
  ⟨more, rfl, hown, hsilent.decoded socket⟩

end History

open History (Adds)

variable {listing : Listing} {scenario : Scenario} {cancellable : Bool} {socket : Nat}
  {past since history history' : History} {browser browser' : Browser}

/-- A packet that arrives brings its page, if it has one. -/
theorem Scenario.Receives.adds {result : Except Fault (List UInt8)}
    (h : scenario.Receives socket history result history') :
    Adds socket (result.toOption.bind fun packet => (Response.parse packet).toOption).toList
      history history' := by
  obtain ⟨more, hmore, hown⟩ := h.frame
  refine ⟨more, hmore, hown, ?_⟩
  cases h with
  | lost answer =>
      obtain rfl := List.append_cancel_left hmore
      rfl
  | @arrived packet answer =>
      rw [List.append_assoc] at hmore
      obtain rfl := List.append_cancel_left hmore
      cases hparse : Response.parse packet <;> simp [History.decoded, hparse, Except.toOption]

namespace Listing

variable {state next : State} {cursor : ServerAddress} {pages : List (List ServerAddress)}

theorem Asks.adds {result : Except Fault Unit}
    (h : listing.Asks scenario socket cursor history result history') :
    Adds socket [] history history' := by
  obtain ⟨more, hmore, hown⟩ := h.frame
  refine ⟨more, hmore, hown, History.decoded_eq_nil ?_⟩
  cases h with
  | unwritten query =>
      obtain rfl := List.append_cancel_left ((List.append_nil history).trans hmore)
      simp
  | unsent query answer | sent query answer =>
      obtain rfl := List.append_cancel_left hmore
      simp

theorem Exchanges.adds {result : Except Fault (List UInt8)}
    (h : listing.Exchanges scenario socket cursor history result history') :
    Adds socket (result.toOption.bind fun packet => (Response.parse packet).toOption).toList
      history history' := by
  cases h with
  | unasked asks => exact asks.adds
  | asked asks receives => exact asks.adds.trans receives.adds

/-- So does decoding, which comes after the packet. -/
theorem adds_decodeEvents (state : State) (packet : List UInt8) (history : History) :
    Adds socket [] history (history ++ decodeEvents state packet) :=
  .of_silent (own_decodeEvents state packet) (silent_decodeEvents state packet)

theorem adds_readied (listing : Listing) (cancellable : Bool) (history : History) :
    Adds socket [] history (listing.readied cancellable history) := by
  rw [readied, List.append_assoc]
  exact .of_silent ((History.own_delay _ _).append (History.own_look _))
    ((History.silent_delay _ _).append (History.silent_look _))

/-! ## what has been handed on -/

/-- Where a listing is not done: all decoded pages, and none of them is a last page. -/
def Waits (socket : Nat) (since : History) (pages : List (List ServerAddress)) : Prop :=
  pages = (since.decoded socket).map Page.servers ∧
    ∀ page ∈ since.decoded socket, page.isLast = false

/-- What has been handed on, given the events since the socket was opened. -/
def Gathers (socket : Nat) (since : History) (pages : List (List ServerAddress)) (state : State) :
    Prop :=
  state.serversDelivered = pages.flatten.length ∧
    match state.phase with
    | .start | .awaiting | .continuing | .failed => Waits socket since pages
    | .delivering => ∃ before, since.decoded socket = before ++ [state.page] ∧
        pages = before.map Page.servers ∧ (∀ page ∈ before, page.isLast = false) ∧
        (state.page.isLast = false → state.page.servers ≠ [])
    | .done => pages = (since.decoded socket).map Page.servers ∧ since.IsComplete socket

variable {more : History}

theorem Waits.append (h : Waits socket since pages) (hmore : more.decoded socket = []) :
    Waits socket (since ++ more) pages := by
  rw [Waits, History.decoded_append, hmore, List.append_nil]
  exact h

theorem Gathers.waits (h : Gathers socket since pages state) (hfinished : state.isFinished = false)
    (hphase : state.phase ≠ .delivering) : Waits socket since pages := by
  obtain ⟨-, h⟩ := h
  cases phase : state.phase with
  | start | awaiting | continuing => simpa only [phase] using h
  | delivering => exact absurd phase hphase
  | done | failed => simp [State.isFinished, phase] at hfinished

/-- A fault ends a listing that waits, or leaves its step. -/
theorem Waits.afterFault (h : Waits socket since pages)
    (hcounted : state.serversDelivered = pages.flatten.length) (fault : Fault) :
    Scenario.Ends (Gathers socket since pages) (fun _ => Waits socket since pages)
      (state.afterFault fault) := by
  cases hfamily : fault.inFamily with
  | true =>
      rw [State.afterFault, if_pos hfamily]
      exact ⟨hcounted, h⟩
  | false =>
      rw [State.afterFault, if_neg (by simp [hfamily])]
      exact h

/-- A page that is decoded is the one to be delivered next. -/
theorem Waits.decoded (h : Waits socket since pages)
    (hcounted : state.serversDelivered = pages.flatten.length) (packet : List UInt8)
    (hmore : more.decoded socket = (Response.parse packet).toOption.toList) :
    Scenario.Ends (Gathers socket (since ++ more) pages)
      (fun _ => Waits socket (since ++ more) pages)
      (state.settle ((Response.parse packet).map state.withPage)) := by
  cases hparse : Response.parse packet with
  | error fault =>
      rw [hparse] at hmore
      exact (h.append hmore).afterFault hcounted fault
  | ok page =>
      rw [hparse] at hmore
      refine ⟨hcounted, since.decoded socket, ?_, h.1, h.2, (Response.parse_eq_ok hparse).2⟩
      rw [History.decoded_append, hmore]
      rfl

/-- How a listing goes on in a step that delivers no page, given the pages that are decoded in
it. -/
inductive Advances (state : State) : List Page → Except Fault State → Prop
  | waiting {next : State} (phase : next.phase = .awaiting ∨ next.phase = .continuing)
    (counted : next.serversDelivered = state.serversDelivered) : Advances state [] (.ok next)
  | ended (fault : Fault) : Advances state [] (state.afterFault fault)
  | received (packet : List UInt8) : Advances state (Response.parse packet).toOption.toList
      (state.settle ((Response.parse packet).map state.withPage))

/-- **A move that delivers no page goes on with the page that it decodes,** if there is one. -/
theorem Move.advances {listener : Listener Play} {result : Except Fault State}
    (h : Move listing scenario cancellable listener socket state browser history result browser'
      history')
    (hfinished : state.isFinished = false) (hphase : state.phase ≠ .delivering) :
    browser' = browser ∧ ∃ pages, Adds socket pages history history' ∧
      Advances state pages result := by
  have hready : Adds socket [] history (listing.readied cancellable history) :=
    adds_readied listing cancellable history
  have hlooked : Adds socket [] history (history ++ look cancellable) :=
    .of_silent (History.own_look _) (History.silent_look _)
  cases h with
  | beginStopped phase set => exact ⟨rfl, _, hlooked, .ended .queryCancelled⟩
  | @beginFailed fault _ phase clear asks =>
      exact ⟨rfl, _, hlooked.trans asks.adds, .ended fault⟩
  | begun phase clear asks =>
      exact ⟨rfl, _, hlooked.trans asks.adds, .waiting (.inl rfl) rfl⟩
  | @awaitFailed fault _ phase receives => exact ⟨rfl, _, receives.adds, .ended fault⟩
  | @awaited packet _ phase receives =>
      exact ⟨rfl, _, receives.adds.trans (adds_decodeEvents state packet _),
        by simpa [Except.toOption] using .received packet⟩
  | listenerFailed phase | delivered phase => exact absurd phase hphase
  | pauseStopped phase set =>
      exact ⟨rfl, _, .of_silent (History.own_delay _ _) (History.silent_delay _ _),
        .ended .queryCancelled⟩
  | proceedStopped phase clear set => exact ⟨rfl, _, hready, .ended .queryCancelled⟩
  | @retried fault exchanged phase clear exchanges transport left =>
      have hsaid : Adds socket [] exchanged
          (exchanged ++ [.logged (retryRecord state fault)]) :=
        .of_silent (History.own_logged [_]) (History.silent_logged [_])
      exact ⟨rfl, _, (hready.trans exchanges.adds).trans hsaid, .waiting (.inr phase) rfl⟩
  | @proceedFailed fault _ phase clear exchanges final =>
      exact ⟨rfl, _, hready.trans exchanges.adds, .ended fault⟩
  | @proceeded packet _ phase clear exchanges =>
      exact ⟨rfl, _, (hready.trans exchanges.adds).trans (adds_decodeEvents state packet _),
        by simpa [Except.toOption] using .received packet⟩
  | rested phase => simp [phase] at hfinished

/-- Where nothing is delivered nothing more has been handed on. -/
theorem Advances.gathers {decoded : List Page} {result : Except Fault State}
    (h : Advances state decoded result) (hwaits : Waits socket since pages)
    (hcounted : state.serversDelivered = pages.flatten.length)
    (hmore : more.decoded socket = decoded) :
    Scenario.Ends (Gathers socket (since ++ more) pages)
      (fun _ => Waits socket (since ++ more) pages) result := by
  cases h with
  | @waiting next phase counted =>
      refine ⟨counted.trans hcounted, ?_⟩
      obtain phase | phase := phase <;> simpa only [phase] using hwaits.append hmore
  | ended fault => exact (hwaits.append hmore).afterFault hcounted fault
  | received packet => exact hwaits.decoded hcounted packet hmore

/-- **A page that is delivered has been handed on.** -/
theorem Gathers.delivered (h : Gathers socket since pages state) (listing : Listing)
    (hphase : state.phase = .delivering) :
    ∃ next, listing.delivered state state.page.servers = .ok next ∧
      Gathers socket since (pages ++ [state.page.servers]) next := by
  obtain ⟨hcounted, h⟩ := h
  simp only [hphase] at h
  obtain ⟨before, hdecoded, rfl, hbefore, hne⟩ := h
  have hcount : (state.counted state.page.servers).serversDelivered =
      (before.map Page.servers ++ [state.page.servers]).flatten.length := by
    simp [State.counted, hcounted]
  have hpages : before.map Page.servers ++ [state.page.servers] =
      (since.decoded socket).map Page.servers := by simp [hdecoded]
  cases hlast : state.page.isLast with
  | true =>
      refine ⟨_, delivered_of_isLast _ hlast, hcount, hpages, state.page, ?_, hlast⟩
      simp [hdecoded]
  | false =>
      have hcursor := List.getLast?_eq_some_getLast (hne hlast)
      refine ⟨_, delivered_of_getLast? hlast hcursor, hcount, hpages, ?_⟩
      rw [hdecoded]
      simpa [or_imp, forall_and, hlast] using hbefore

/-! ## steps -/

variable {scripts : List Script} {ending : Script.Ending} {cancel : CancelScript} {start : Nat}
  {kept : List (List ServerAddress)}

/-- The listener that does nothing at all. -/
def passing : Listener Play := fun page => return .ok page

/-- **A step hands on at most the page that it delivers,** and leaves fewer steps to be taken. -/
theorem Gathers.step (h : Gathers socket since pages state) (hfinished : state.isFinished = false)
    (listing : Listing) (scripts : List Script) (ending : Script.Ending) (cancel : CancelScript)
    (start : Nat) (cancellable : Bool) (kept : List (List ServerAddress)) (browser : Browser)
    (past : History) :
    ∃ result pages' more,
      listing.step ((Script.scenario scripts ending cancel start).world cancellable).lift
          (Listener.recorder (m := Play)) socket state (kept ++ pages) browser (past ++ since) =
        (((result, kept ++ pages'), browser), past ++ (since ++ more)) ∧
      History.Own socket more ∧
      Scenario.Ends (fun next => Gathers socket (since ++ more) pages' next ∧
          next.need listing.settings.retryCount
              (Script.supply scripts socket (past ++ (since ++ more))) <
            state.need listing.settings.retryCount (Script.supply scripts socket (past ++ since)))
        (fun _ => Waits socket (since ++ more) pages') result := by
  obtain ⟨result, browser', history', hmove, hstep⟩ := move_step listing
    (Script.scenario scripts ending cancel start) cancellable passing socket state browser
    (past ++ since)
  have hgrows : ∀ page browser (history : History), ∃ more,
      (passing page browser history).2 = history ++ more :=
    fun page browser history => ⟨[], by rw [List.append_nil]; rfl⟩
  by_cases hphase : state.phase = .delivering
  · obtain ⟨next, hdelivered, hnext⟩ := h.delivered listing hphase
    have hlistens : passing state.page.servers browser (past ++ since) =
        ((.ok state.page.servers, browser), past ++ since) := rfl
    have hrecords : (Listener.recorder (m := Play)) state.page.servers (kept ++ pages) browser
        (past ++ since) =
          (((.ok state.page.servers, kept ++ (pages ++ [state.page.servers])), browser),
            past ++ since) := by
      rw [← List.append_assoc]
      rfl
    have hplay := step_deliver_play listing
      ((Script.scenario scripts ending cancel start).world cancellable) socket hphase hrecords
    cases (step_deliver hphase hlistens).symm.trans hstep
    rw [handedBack, settle_delivered, hdelivered] at hmove hplay
    refine ⟨.ok next, pages ++ [state.page.servers], [], ?_, History.own_nil, ?_⟩
    · rw [List.append_nil]
      exact hplay
    · rw [List.append_nil]
      exact ⟨hnext, hmove.need_lt (Script.rations ..) hfinished hgrows⟩
  · obtain ⟨rfl, decoded, ⟨more, rfl, hown, hmore⟩, hadvances⟩ :=
      hmove.advances hfinished hphase
    have hplay := step_lift_play listing _ socket hphase hstep Listener.recorder (kept ++ pages)
    have hgathers := hadvances.gathers (h.waits hfinished hphase) h.1 hmore
    rw [List.append_assoc] at hplay hmove
    refine ⟨result, pages, more, hplay, hown, ?_⟩
    cases result with
    | ok next => exact ⟨hgathers, hmove.need_lt (Script.rations ..) hfinished hgrows⟩
    | error fault => exact hgathers

/-- A listing that is given enough steps comes to its end with all decoded pages handed on. -/
theorem Gathers.steps (h : Gathers socket since pages state) (listing : Listing)
    (scripts : List Script) (ending : Script.Ending) (cancel : CancelScript) (start : Nat)
    (cancellable : Bool) (limit : Nat) (kept : List (List ServerAddress)) (browser : Browser)
    (past : History)
    (hlimit : state.need listing.settings.retryCount
      (Script.supply scripts socket (past ++ since)) ≤ limit) :
    ∃ result pages' more,
      listing.steps ((Script.scenario scripts ending cancel start).world cancellable).lift
          (Listener.recorder (m := Play)) socket limit state (kept ++ pages) browser
          (past ++ since) =
        (((result, kept ++ pages'), browser), past ++ (since ++ more)) ∧
      History.Own socket more ∧
      Scenario.Ends
        (fun final => final.isFinished = true ∧ Gathers socket (since ++ more) pages' final)
        (fun _ => Waits socket (since ++ more) pages') result := by
  induction limit generalizing state pages since with
  | zero =>
      have hfinished := isFinished_of_need (Nat.le_zero.1 hlimit)
      refine ⟨.ok state, pages, [], ?_, History.own_nil, hfinished, ?_⟩
      · rw [List.append_nil]
        exact keep_steps_of_finished hfinished
      · rwa [List.append_nil]
  | succ limit ih =>
      cases hfinished : state.isFinished with
      | true =>
          refine ⟨.ok state, pages, [], ?_, History.own_nil, hfinished, ?_⟩
          · rw [List.append_nil]
            exact keep_steps_of_finished hfinished
          · rwa [List.append_nil]
      | false =>
          obtain ⟨result, pages', more, hstep, hown, hends⟩ :=
            h.step hfinished listing scripts ending cancel start cancellable kept browser past
          cases result with
          | error fault =>
              exact ⟨_, _, _, keep_steps_of_error hfinished hstep, hown, hends⟩
          | ok next =>
              obtain ⟨hnext, hneed⟩ := hends
              obtain ⟨result, pages'', later, hsteps, hlater, hends⟩ :=
                ih hnext (Nat.le_of_lt_succ (Nat.lt_of_lt_of_le hneed hlimit))
              rw [List.append_assoc] at hsteps hends
              exact ⟨result, pages'', more ++ later,
                (keep_steps_of_ok hfinished hstep).trans hsteps, hown.append hlater, hends⟩

/-! ## runs -/

/-- A run without a socket hands on nothing. -/
theorem keep_run_error {σ : Type} {upper : Listener (StateT σ Play)} {limit : Nat} {fault : Fault}
    (hopen : scenario.connect (listing.opened history) = .error fault) (kept : σ)
    (browser : Browser) :
    listing.run (scenario.world cancellable).lift upper limit kept browser history =
      (((.error fault, kept), browser), listing.opened history) := by
  have hconnect := listing.connect_play scenario cancellable browser history
  rw [hopen] at hconnect
  rw [run]
  exact (keep_bind (monadLift_play (log_play listing.startRecord) kept)).trans
    (keep_bind (monadLift_play hconnect kept))

/-- A run over a socket that opens keeps what its steps keep. -/
theorem keep_run {σ : Type} {upper : Listener (StateT σ Play)} {limit : Nat}
    {result : Except Fault State} {kept kept' : σ}
    (hopen : scenario.connect (listing.opened history) = .ok ())
    (hsteps : listing.steps (scenario.world cancellable).lift upper history.socketCount limit
      listing.initial kept browser (listing.opened history) =
        (((result, kept'), browser'), history')) :
    listing.run (scenario.world cancellable).lift upper limit kept browser history =
      (((result.bind outcome, kept'), browser'),
        history' ++ listing.closing history.socketCount result) := by
  have hconnect := listing.connect_play scenario cancellable browser history
  rw [hopen] at hconnect
  rw [run]
  refine (keep_bind (monadLift_play (log_play listing.startRecord) kept)).trans
    ((keep_bind (monadLift_play hconnect kept)).trans ((keep_bind hsteps).trans ?_))
  cases result with
  | error fault => rfl
  | ok state =>
      show (((outcome state, kept'), browser'),
        history' ++ [.closed history.socketCount] ++ [.logged (listing.endRecord state)]) = _
      rw [List.append_assoc]
      rfl

/-- What comes before the steps of a listing, and what comes after them, brings no page. -/
theorem decoded_enclosed (listing : Listing) (socket : Nat) (more : History)
    (result : Except Fault State) :
    (listing.opening socket ++ more ++ listing.closing socket result).decoded socket =
      more.decoded socket := by
  have hopening : (listing.opening socket).decoded socket = [] := rfl
  rw [History.decoded_append, History.decoded_append, hopening,
    (silent_closing listing socket result).decoded, List.append_nil, List.nil_append]

/-- All that a listing adds is about its socket, or about none. -/
theorem socket?_enclosed {result : Except Fault State} {event : Event} {other : Nat}
    (hown : History.Own socket more)
    (hevent : event ∈ listing.opening socket ++ more ++ listing.closing socket result)
    (habout : event.socket? = some other) : other = socket := by
  obtain ⟨records, hclosing⟩ := closing_eq listing socket result
  rw [hclosing] at hevent
  obtain hevent | hevent := List.mem_append.1 hevent
  · obtain hevent | hevent := List.mem_append.1 hevent
    · simp only [opening, List.mem_cons, List.not_mem_nil, or_false] at hevent
      obtain rfl | rfl := hevent
      · cases habout
      · exact (Option.some.inj habout).symm
    · have := hown event hevent
      cases event <;> simp_all [Event.isOwn, Event.socket?]
  · obtain rfl | hevent := List.mem_cons.1 hevent
    · exact (Option.some.inj habout).symm
    · obtain ⟨record, -, rfl⟩ := List.mem_map.1 hevent
      cases habout

/-- What a whole listing over a socket adds to a history and hands on. -/
structure Gathered (socket : Nat) (since : History) (pages : List (List ServerAddress))
    (result : Except Fault State) : Prop where
  socketCount : since.socketCount = 1
  alone : ∀ event ∈ since, ∀ other, event.socket? = some other → other = socket
  delivered : pages = (since.decoded socket).map Page.servers
  /-- The listing succeeds exactly if the last page was decoded. -/
  ends : Scenario.Ends (fun state : State => state.serversDelivered = pages.flatten.length ∧
      since.IsComplete socket)
    (fun _ => ¬ since.IsComplete socket) result

theorem Waits.not_isComplete (h : Waits socket since pages) : ¬ since.IsComplete socket := by
  rintro ⟨page, hpage, hlast⟩
  rw [h.2 page (List.mem_of_getLast? hpage)] at hlast
  cases hlast

/-- A listing that is over has succeeded if it is done. -/
theorem Gathers.ends (h : Gathers socket since pages state)
    (hfinished : state.isFinished = true) :
    pages = (since.decoded socket).map Page.servers ∧
      Scenario.Ends (fun final : State =>
          final.serversDelivered = pages.flatten.length ∧ since.IsComplete socket)
        (fun _ => ¬ since.IsComplete socket) (outcome state) := by
  obtain ⟨hcounted, h⟩ := h
  cases phase : state.phase with
  | start | awaiting | delivering | continuing => simp [State.isFinished, phase] at hfinished
  | done =>
      simp only [phase] at h
      rw [outcome, if_neg (by simp [phase])]
      exact ⟨h.1, hcounted, h.2⟩
  | failed =>
      simp only [phase] at h
      rw [outcome, if_pos phase]
      exact ⟨h.1, h.not_isComplete⟩

/-- **A listing hands on all pages that are decoded on its socket,** each once and in their order,
and succeeds exactly if the last of them is a last page. -/
theorem run_gathers (listing : Listing) (scripts : List Script) (ending : Script.Ending)
    (cancel : CancelScript) (start : Nat) (cancellable : Bool) (limit : Nat)
    (kept : List (List ServerAddress)) (browser : Browser) (history : History)
    (hlimit : 2 + Script.supply scripts history.socketCount [] * (listing.settings.retryCount + 2) ≤
      limit) :
    ∃ result pages since,
      listing.run ((Script.scenario scripts ending cancel start).world cancellable).lift
          (Listener.recorder (m := Play)) limit kept browser history =
        (((result, kept ++ pages), browser), history ++ since) ∧
      Gathered history.socketCount since pages result := by
  cases hopen : (Script.scenario scripts ending cancel start).connect (listing.opened history) with
  | error fault =>
      refine ⟨.error fault, [], listing.opening history.socketCount, ?_, rfl, ?_, rfl, ?_⟩
      · rw [List.append_nil, ← opened_eq]
        exact keep_run_error hopen kept browser
      · intro event hevent other habout
        simp only [opening, List.mem_cons, List.not_mem_nil, or_false] at hevent
        obtain rfl | rfl := hevent
        · cases habout
        · exact (Option.some.inj habout).symm
      · rintro ⟨page, hpage, -⟩
        cases hpage
  | ok =>
      have hinitial : Gathers history.socketCount [] [] listing.initial :=
        ⟨rfl, rfl, fun page hpage => absurd hpage List.not_mem_nil⟩
      have hsupply := Script.supply_append_le scripts history.socketCount []
        (listing.opened history ++ [])
      have hneed : listing.initial.need listing.settings.retryCount
          (Script.supply scripts history.socketCount (listing.opened history ++ [])) ≤ limit := by
        refine Nat.le_trans ?_ hlimit
        rw [need_initial]
        exact Nat.add_le_add_left (Nat.mul_le_mul_right _ hsupply) 2
      obtain ⟨result, pages, more, hsteps, hown, hends⟩ := hinitial.steps listing scripts ending
        cancel start cancellable limit kept browser (listing.opened history) hneed
      rw [List.append_nil, List.append_nil, List.nil_append] at hsteps
      rw [List.nil_append] at hends
      have hrun := keep_run hopen hsteps
      rw [opened_eq, List.append_assoc, List.append_assoc,
        ← List.append_assoc (opening _ _)] at hrun
      have hover : pages = (more.decoded history.socketCount).map Page.servers ∧
          Scenario.Ends (fun final : State => final.serversDelivered = pages.flatten.length ∧
              more.IsComplete history.socketCount)
            (fun _ => ¬ more.IsComplete history.socketCount) (result.bind outcome) := by
        cases result with
        | ok final => exact hends.2.ends hends.1
        | error fault => exact ⟨hends.1, hends.not_isComplete⟩
      refine ⟨_, pages, _, hrun, ?_, fun event hevent other => socket?_enclosed hown hevent, ?_, ?_⟩
      · rw [History.socketCount_append, History.socketCount_append, hown.socketCount,
          (silent_closing listing history.socketCount result).socketCount]
        rfl
      · rw [decoded_enclosed]
        exact hover.1
      · simp only [History.IsComplete, decoded_enclosed]
        exact hover.2

end Listing

end ServerBrowser
