import ServerBrowser.Proofs.Scenario

/-!
# ServerBrowser.Proofs.Listing.Move

What one step of a listing can do in a scenario.  `Move` has a case for each way in which a step may
end, with all that it leaves in the history, and every step is such a move (`move_step`).  Whatever
is to be kept by every step is then a case analysis over moves.
-/

namespace ServerBrowser.Listing

open Scenario

variable {browser browser' : Browser} {history history' : History}

/-! ## the parts of a step -/

/-- What comes of asking for what follows a server: no packet can name it, the packet is not sent,
or it is. -/
inductive Asks (listing : Listing) (scenario : Scenario) (socket : Nat) (cursor : ServerAddress)
    (history : History) : Except Fault Unit → History → Prop
  | unwritten {fault : Fault} (query : (listing.query cursor).toBytes = .error fault) :
    Asks listing scenario socket cursor history (.error fault) history
  | unsent {packet : List UInt8} {fault : Fault}
    (query : (listing.query cursor).toBytes = .ok packet)
    (answer : scenario.send (history ++ [.sent socket packet]) = .error fault) :
    Asks listing scenario socket cursor history (.error fault) (history ++ [.sent socket packet])
  | sent {packet : List UInt8} (query : (listing.query cursor).toBytes = .ok packet)
    (answer : scenario.send (history ++ [.sent socket packet]) = .ok ()) :
    Asks listing scenario socket cursor history (.ok ()) (history ++ [.sent socket packet])

theorem ask_play (listing : Listing) (scenario : Scenario) (cancellable : Bool) (socket : Nat)
    (cursor : ServerAddress) (browser : Browser) (history : History) :
    ∃ result history', listing.Asks scenario socket cursor history result history' ∧
      (listing.ask (scenario.world cancellable) socket cursor).run browser history =
        ((result, browser), history') := by
  have hplay : ∀ result, (listing.query cursor).toBytes = result →
      (ExceptT.mk (pure (listing.query cursor).toBytes) : ExceptT Fault Play (List UInt8)).run
        browser history = ((result, browser), history) := by
    rintro result rfl
    rfl
  cases hquery : (listing.query cursor).toBytes with
  | error fault =>
      exact ⟨_, _, .unwritten hquery, run_bind_error (hplay _ hquery)⟩
  | ok packet =>
      have hsend : (listing.ask (scenario.world cancellable) socket cursor).run browser history =
          ((scenario.send (history ++ [.sent socket packet]), browser),
            history ++ [.sent socket packet]) :=
        run_bind_ok (hplay _ hquery)
      cases hanswer : scenario.send (history ++ [.sent socket packet]) with
      | error fault => exact ⟨_, _, .unsent hquery hanswer, by rw [hsend, hanswer]⟩
      | ok => exact ⟨_, _, .sent hquery hanswer, by rw [hsend, hanswer]⟩

/-- What comes of one attempt: asking fails, or what comes of waiting for the answer. -/
inductive Exchanges (listing : Listing) (scenario : Scenario) (socket : Nat)
    (cursor : ServerAddress) (history : History) : Except Fault (List UInt8) → History → Prop
  | unasked {fault : Fault} {history' : History}
    (asks : listing.Asks scenario socket cursor history (.error fault) history') :
    Exchanges listing scenario socket cursor history (.error fault) history'
  | asked {result : Except Fault (List UInt8)} {history' history'' : History}
    (asks : listing.Asks scenario socket cursor history (.ok ()) history')
    (receives : scenario.Receives socket history' result history'') :
    Exchanges listing scenario socket cursor history result history''

theorem exchange_play (listing : Listing) (scenario : Scenario) (cancellable : Bool)
    (socket : Nat) (state : State) (browser : Browser) (history : History) :
    ∃ result history', listing.Exchanges scenario socket state.cursor history result history' ∧
      (listing.exchange (scenario.world cancellable) socket state).run browser history =
        ((result, browser), history') := by
  obtain ⟨asked, history', hasks, hplay⟩ :=
    listing.ask_play scenario cancellable socket state.cursor browser history
  cases asked with
  | error fault => exact ⟨_, _, .unasked hasks, run_bind_error hplay⟩
  | ok =>
      obtain ⟨result, history'', hreceives, hreceive⟩ :=
        scenario.receive_direct socket browser history'
      exact ⟨_, _, .asked hasks hreceives, (run_bind_ok hplay).trans hreceive⟩

/-- What the log says about a decoded page. -/
def pageRecord (state : State) (page : Page) : Log.Record :=
  record Log.debug
    (s!"Page of {page.servers.length} server(s) after {state.cursor}, end=" ++
      if page.isLast then "True" else "False")

/-- What decoding a packet leaves in the history. -/
def decodeEvents (state : State) (packet : List UInt8) : History :=
  (Response.remarks packet).map .logged ++
    match Response.parse packet with
    | .ok page => [.logged (pageRecord state page)]
    | .error _ => []

/-- The state with a page to be delivered. -/
def State.withPage (state : State) (page : Page) : State :=
  { state with phase := .delivering, page }

theorem decode_play (scenario : Scenario) (cancellable : Bool) (state : State)
    (packet : List UInt8) (browser : Browser) (history : History) :
    (decode (scenario.world cancellable) state packet).run browser history =
      (((Response.parse packet).map state.withPage, browser),
        history ++ decodeEvents state packet) := by
  have hremarks := lift_play (forM_log (Response.remarks packet) browser history)
  have hparse : ∀ result, Response.parse packet = result →
      (ExceptT.mk (pure (Response.parse packet)) : ExceptT Fault Play Page).run browser
        (history ++ (Response.remarks packet).map .logged) =
          ((result, browser), history ++ (Response.remarks packet).map .logged) := by
    rintro result rfl
    rfl
  rw [decode, forM_lift]
  refine (run_bind_ok hremarks).trans ?_
  cases hpage : Response.parse packet with
  | error fault =>
      rw [← hpage, run_bind_error (hparse _ hpage)]
      simp [decodeEvents, hpage, Except.map]
  | ok page =>
      rw [← hpage, run_bind_ok (hparse _ hpage)]
      simp only [decodeEvents, hpage, Except.map, ← List.append_assoc]
      rfl

/-- The state in which a page is counted as the listener left it. -/
def State.counted (state : State) (left : List ServerAddress) : State :=
  { state with
    pagesDelivered := state.pagesDelivered + 1
    serversDelivered := state.serversDelivered + left.length }

/-- After the last page a listing is done. -/
theorem delivered_of_isLast {listing : Listing} {state : State} (left : List ServerAddress)
    (h : state.page.isLast = true) :
    listing.delivered state left = .ok { state.counted left with phase := .done } := by
  rw [delivered, if_pos h]
  rfl

/-- After any other page a listing continues from the last server that the listener left. -/
theorem delivered_of_getLast? {listing : Listing} {state : State} {left : List ServerAddress}
    {last : ServerAddress} (h : state.page.isLast = false) (hlast : left.getLast? = some last) :
    listing.delivered state left = .ok { state.counted left with
      phase := .continuing
      cursor := last
      retriesLeft := listing.settings.retryCount
      lastFault := none } := by
  rw [delivered, if_neg (by simp [h]), hlast]
  rfl

/-- There is nothing to continue from where the listener left no server. -/
theorem delivered_nil {listing : Listing} {state : State} (h : state.page.isLast = false) :
    listing.delivered state [] = .error .pageEmptied := by
  rw [delivered, if_neg (by simp [h])]
  rfl

/-! ## moves -/

/-- The state of a listing that a fault has ended. -/
def State.endedBy (state : State) (fault : Fault) : State :=
  { state with phase := .failed, lastFault := some fault }

/-- The state that a result leads to: the one it gives, or the one after its fault. -/
def State.settle (state : State) : Except Fault State → Except Fault State
  | .ok next => .ok next
  | .error fault => state.afterFault fault

/-- The fault of a page without servers is no fault of the family: it leaves the step. -/
theorem settle_delivered (listing : Listing) (state : State)
    (left : List ServerAddress) :
    state.settle (listing.delivered state left) = listing.delivered state left := by
  cases hlast : state.page.isLast with
  | true => rw [delivered_of_isLast left hlast]; rfl
  | false =>
      cases hleft : left.getLast? with
      | none =>
          rw [List.getLast?_eq_none_iff] at hleft
          rw [hleft, delivered_nil hlast]
          rfl
      | some last => rw [delivered_of_getLast? hlast hleft]; rfl

/-- The history in which an attempt asks: a delay and a look at the cancel signal later. -/
def readied (listing : Listing) (cancellable : Bool) (history : History) : History :=
  history ++ delay cancellable listing.settings.retryDelay ++ look cancellable

/-- Without a cancel signal nothing comes before an attempt but a delay. -/
theorem readied_false (listing : Listing) (history : History) :
    listing.readied false history = history ++ [.slept listing.settings.retryDelay] := by
  simp [readied, delay, look]

/-- That nothing stops an attempt, neither in the delay nor at the look. -/
def Clear (listing : Listing) (scenario : Scenario) (cancellable : Bool) (history : History) :
    Prop :=
  scenario.stops cancellable (history ++ delay cancellable listing.settings.retryDelay) = false ∧
    scenario.stops cancellable (listing.readied cancellable history) = false

/-- What the log says about an attempt that is followed by another one. -/
def retryRecord (state : State) (fault : Fault) : Log.Record :=
  record Log.warning
    (s!"Continuation after {state.cursor} failed ({fault.message}), " ++
      s!"{state.retriesLeft} retries left")

/-- The ways in which a step of a listing may end, with the browser and the history it leaves. -/
inductive Move (listing : Listing) (scenario : Scenario) (cancellable : Bool)
    (listener : Listener Play) (socket : Nat) (state : State) (browser : Browser)
    (history : History) : Except Fault State → Browser → History → Prop
  | beginStopped (phase : state.phase = .start)
    (set : scenario.stops cancellable (history ++ look cancellable) = true) :
    Move listing scenario cancellable listener socket state browser history
      (.ok (state.endedBy .queryCancelled)) browser (history ++ look cancellable)
  | beginFailed {fault : Fault} {history' : History} (phase : state.phase = .start)
    (clear : scenario.stops cancellable (history ++ look cancellable) = false)
    (asks : listing.Asks scenario socket .null (history ++ look cancellable) (.error fault)
      history') :
    Move listing scenario cancellable listener socket state browser history
      (state.afterFault fault) browser history'
  | begun {history' : History} (phase : state.phase = .start)
    (clear : scenario.stops cancellable (history ++ look cancellable) = false)
    (asks : listing.Asks scenario socket .null (history ++ look cancellable) (.ok ()) history') :
    Move listing scenario cancellable listener socket state browser history
      (.ok { state with phase := .awaiting, cursor := .null }) browser history'
  | awaitFailed {fault : Fault} {history' : History} (phase : state.phase = .awaiting)
    (receives : scenario.Receives socket history (.error fault) history') :
    Move listing scenario cancellable listener socket state browser history
      (state.afterFault fault) browser history'
  | awaited {packet : List UInt8} {history' : History} (phase : state.phase = .awaiting)
    (receives : scenario.Receives socket history (.ok packet) history') :
    Move listing scenario cancellable listener socket state browser history
      (state.settle ((Response.parse packet).map state.withPage)) browser
      (history' ++ decodeEvents state packet)
  | listenerFailed {fault : Fault} {browser' : Browser} {history' : History}
    (phase : state.phase = .delivering)
    (listens : listener state.page.servers browser history = ((.error fault, browser'), history')) :
    Move listing scenario cancellable listener socket state browser history
      (.ok (state.endedBy (.listenerFailed fault))) browser' history'
  | delivered {left : List ServerAddress} {browser' : Browser} {history' : History}
    (phase : state.phase = .delivering)
    (listens : listener state.page.servers browser history = ((.ok left, browser'), history')) :
    Move listing scenario cancellable listener socket state browser history
      (state.settle (listing.delivered state left)) browser' history'
  | pauseStopped (phase : state.phase = .continuing)
    (set : scenario.stops cancellable (history ++ delay cancellable listing.settings.retryDelay) =
      true) :
    Move listing scenario cancellable listener socket state browser history
      (.ok (state.endedBy .queryCancelled)) browser
      (history ++ delay cancellable listing.settings.retryDelay)
  | proceedStopped (phase : state.phase = .continuing)
    (clear : scenario.stops cancellable (history ++ delay cancellable listing.settings.retryDelay) =
      false)
    (set : scenario.stops cancellable (listing.readied cancellable history) = true) :
    Move listing scenario cancellable listener socket state browser history
      (.ok (state.endedBy .queryCancelled)) browser (listing.readied cancellable history)
  | retried {fault : Fault} {history' : History} (phase : state.phase = .continuing)
    (clear : listing.Clear scenario cancellable history)
    (exchanges : listing.Exchanges scenario socket state.cursor
      (listing.readied cancellable history) (.error fault) history')
    (transport : fault.isTransport = true) (left : 0 < state.retriesLeft) :
    Move listing scenario cancellable listener socket state browser history
      (.ok { state with retriesLeft := state.retriesLeft - 1, lastFault := some fault }) browser
      (history' ++ [.logged (retryRecord state fault)])
  | proceedFailed {fault : Fault} {history' : History} (phase : state.phase = .continuing)
    (clear : listing.Clear scenario cancellable history)
    (exchanges : listing.Exchanges scenario socket state.cursor
      (listing.readied cancellable history) (.error fault) history')
    (final : ¬ (fault.isTransport = true ∧ 0 < state.retriesLeft)) :
    Move listing scenario cancellable listener socket state browser history
      (state.afterFault fault) browser history'
  | proceeded {packet : List UInt8} {history' : History} (phase : state.phase = .continuing)
    (clear : listing.Clear scenario cancellable history)
    (exchanges : listing.Exchanges scenario socket state.cursor
      (listing.readied cancellable history) (.ok packet) history') :
    Move listing scenario cancellable listener socket state browser history
      (state.settle ((Response.parse packet).map state.withPage)) browser
      (history' ++ decodeEvents state packet)
  | rested (phase : state.isFinished = true) :
    Move listing scenario cancellable listener socket state browser history (.ok state) browser
      history

/-- A fault that leaves a step is none of the family. -/
theorem inFamily_of_afterFault {state : State} {fault left : Fault}
    (h : state.afterFault fault = .error left) : left.inFamily = false := by
  rw [State.afterFault] at h
  split at h
  · cases h
  · cases h
    rename_i hfamily
    simpa using hfamily

theorem inFamily_of_settle {state : State} {result : Except Fault State} {left : Fault}
    (h : state.settle result = .error left) : left.inFamily = false := by
  cases result with
  | ok next => cases h
  | error fault => exact inFamily_of_afterFault h

theorem Move.inFamily_of_error {listing : Listing} {scenario : Scenario} {cancellable : Bool}
    {listener : Listener Play} {socket : Nat} {state : State} {result : Except Fault State}
    {fault : Fault}
    (hmove : Move listing scenario cancellable listener socket state browser history result browser'
      history') (h : result = .error fault) : fault.inFamily = false := by
  cases hmove with
  | beginFailed | awaitFailed | proceedFailed => exact inFamily_of_afterFault h
  | awaited | delivered | proceeded => exact inFamily_of_settle h
  | beginStopped | begun | listenerFailed | pauseStopped | proceedStopped | retried | rested =>
      cases h

/-! ## steps are moves -/

section Steps

variable {S : Type} {listing : Listing} {world : Surroundings Play S} {listener : Listener Play}
  {socket : S} {state : State}

/-- A step gives what its transition settles to. -/
theorem step_play (result : Except Fault State)
    (h : (listing.transition world listener socket state).run browser history =
      ((result, browser'), history')) :
    listing.step world listener socket state browser history =
      ((state.settle result, browser'), history') := by
  refine (play_bind h).trans ?_
  cases result <;> rfl

/-- What the delivery of a page comes to when the listener has handed back what it has. -/
def handedBack (listing : Listing) (state : State) :
    Except Fault (List ServerAddress) → Except Fault State
  | .error fault => .error (.listenerFailed fault)
  | .ok left => listing.delivered state left

/-- A delivery leaves the browser and the history that the listener leaves. -/
theorem step_deliver {result : Except Fault (List ServerAddress)}
    (phase : state.phase = .delivering)
    (h : listener state.page.servers browser history = ((result, browser'), history')) :
    listing.step world listener socket state browser history =
      ((state.settle (listing.handedBack state result), browser'), history') := by
  refine step_play _ ?_
  rw [transition, phase]
  show (listing.deliver listener state).run browser history = _
  rw [deliver, run_bind_ok (lift_play h)]
  cases result <;> rfl

end Steps

variable (listing : Listing) (scenario : Scenario) (cancellable : Bool) (listener : Listener Play)
  (socket : Nat) {state : State}

theorem begin_move (phase : state.phase = .start) :
    ∃ result browser' history',
      Move listing scenario cancellable listener socket state browser history result browser'
        history' ∧
      listing.step (scenario.world cancellable) listener socket state browser history =
        ((result, browser'), history') := by
  have htransition : listing.transition (scenario.world cancellable) listener socket state =
      listing.begin (scenario.world cancellable) socket state := by
    rw [transition, phase]
  have hcheck := scenario.checkCancelled_play scenario.direct cancellable browser history
  cases hset : scenario.stops cancellable (history ++ look cancellable) with
  | true =>
      rw [hset, if_pos rfl] at hcheck
      exact ⟨_, _, _, .beginStopped phase hset,
        step_play _ (by rw [htransition, begin, run_bind_error hcheck])⟩
  | false =>
      rw [hset, if_neg Bool.false_ne_true] at hcheck
      obtain ⟨asked, history', hasks, hplay⟩ :=
        listing.ask_play scenario cancellable socket .null browser (history ++ look cancellable)
      cases asked with
      | error fault =>
          exact ⟨_, _, _, .beginFailed phase hset hasks,
            step_play _ (by rw [htransition, begin, run_bind_ok hcheck, run_bind_error hplay])⟩
      | ok =>
          refine ⟨_, _, _, .begun phase hset hasks,
            step_play (.ok _) ?_⟩
          rw [htransition, begin, run_bind_ok hcheck, run_bind_ok hplay]
          rfl

theorem await_move (phase : state.phase = .awaiting) :
    ∃ result browser' history',
      Move listing scenario cancellable listener socket state browser history result browser'
        history' ∧
      listing.step (scenario.world cancellable) listener socket state browser history =
        ((result, browser'), history') := by
  have htransition : listing.transition (scenario.world cancellable) listener socket state =
      await (scenario.world cancellable) socket state := by
    rw [transition, phase]
  obtain ⟨result, history', hreceives, hplay⟩ :=
    scenario.receive_direct socket browser history
  have hreceive : (ExceptT.mk ((scenario.world cancellable).transport.receive socket) :
      ExceptT Fault Play (List UInt8)).run browser history = ((result, browser), history') := hplay
  cases result with
  | error fault =>
      exact ⟨_, _, _, .awaitFailed phase hreceives,
        step_play _ (by rw [htransition, await, run_bind_error hreceive])⟩
  | ok packet =>
      exact ⟨_, _, _, .awaited phase hreceives,
        step_play _ (by rw [htransition, await, run_bind_ok hreceive, decode_play])⟩

theorem deliver_move (phase : state.phase = .delivering) :
    ∃ result browser' history',
      Move listing scenario cancellable listener socket state browser history result browser'
        history' ∧
      listing.step (scenario.world cancellable) listener socket state browser history =
        ((result, browser'), history') := by
  obtain ⟨result, browser', history', hlistens⟩ :=
    exists_play (listener state.page.servers) browser history
  cases result with
  | error fault => exact ⟨_, _, _, .listenerFailed phase hlistens, step_deliver phase hlistens⟩
  | ok left => exact ⟨_, _, _, .delivered phase hlistens, step_deliver phase hlistens⟩

theorem proceed_move (phase : state.phase = .continuing) :
    ∃ result browser' history',
      Move listing scenario cancellable listener socket state browser history result browser'
        history' ∧
      listing.step (scenario.world cancellable) listener socket state browser history =
        ((result, browser'), history') := by
  have htransition : listing.transition (scenario.world cancellable) listener socket state =
      listing.proceed (scenario.world cancellable) socket state := by
    rw [transition, phase]
  have hpause := scenario.pause_play scenario.direct cancellable listing browser history
  have hcheck := scenario.checkCancelled_play scenario.direct cancellable browser
    (history ++ delay cancellable listing.settings.retryDelay)
  cases hset : scenario.stops cancellable
      (history ++ delay cancellable listing.settings.retryDelay) with
  | true =>
      rw [hset, if_pos rfl] at hpause
      exact ⟨_, _, _, .pauseStopped phase hset,
        step_play _ (by rw [htransition, proceed, run_bind_error hpause])⟩
  | false =>
      rw [hset, if_neg Bool.false_ne_true] at hpause
      cases hlook : scenario.stops cancellable (listing.readied cancellable history) with
      | true =>
          rw [← readied, hlook, if_pos rfl] at hcheck
          exact ⟨_, _, _, .proceedStopped phase hset hlook,
            step_play _ (by rw [htransition, proceed, run_bind_ok hpause, run_bind_error hcheck])⟩
      | false =>
          rw [← readied, hlook, if_neg Bool.false_ne_true] at hcheck
          obtain ⟨result, history', hexchanges, hplay⟩ :=
            listing.exchange_play scenario cancellable socket state browser
              (listing.readied cancellable history)
          have hlift := lift_play hplay
          cases result with
          | ok packet =>
              exact ⟨_, _, _, .proceeded phase ⟨hset, hlook⟩ hexchanges,
                step_play _ (by
                  rw [htransition, proceed, run_bind_ok hpause, run_bind_ok hcheck,
                    run_bind_ok hlift, decode_play])⟩
          | error fault =>
              by_cases hretry : fault.isTransport = true ∧ 0 < state.retriesLeft
              · refine ⟨_, _, _, .retried phase ⟨hset, hlook⟩ hexchanges hretry.1 hretry.2,
                  step_play (.ok _) ?_⟩
                rw [htransition, proceed, run_bind_ok hpause, run_bind_ok hcheck,
                  run_bind_ok hlift]
                simp only [if_pos hretry]
                rfl
              · refine ⟨_, _, _, .proceedFailed phase ⟨hset, hlook⟩ hexchanges hretry,
                  step_play (.error fault) ?_⟩
                rw [htransition, proceed, run_bind_ok hpause, run_bind_ok hcheck,
                  run_bind_ok hlift]
                simp only [if_neg hretry]
                rfl

/-- **Every step is a move.** -/
theorem move_step (state : State) (browser : Browser) (history : History) :
    ∃ result browser' history',
      Move listing scenario cancellable listener socket state browser history result browser'
        history' ∧
      listing.step (scenario.world cancellable) listener socket state browser history =
        ((result, browser'), history') := by
  cases phase : state.phase with
  | start => exact begin_move listing scenario cancellable listener socket phase
  | awaiting => exact await_move listing scenario cancellable listener socket phase
  | delivering => exact deliver_move listing scenario cancellable listener socket phase
  | continuing => exact proceed_move listing scenario cancellable listener socket phase
  | done | failed =>
      have hfinished : state.isFinished = true := by simp [State.isFinished, phase]
      refine ⟨_, _, _, .rested hfinished, step_play (.ok state) ?_⟩
      rw [transition, phase]
      rfl

end ServerBrowser.Listing
