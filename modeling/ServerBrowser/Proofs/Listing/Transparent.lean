import ServerBrowser.Proofs.Listener
import ServerBrowser.Proofs.Listing.Losses
import ServerBrowser.Proofs.Listing.Trace
import ServerBrowser.Proofs.Master
import ServerBrowser.Proofs.Query

/-!
# ServerBrowser.Proofs.Listing.Transparent

Lost attempts are not seen.  Two runs are put side by side: one over a script that answers every
packet, and one over the same script with lost attempts put in, before each continuation as many as
there are retries, or fewer.  The second run takes the steps of the first one, and in between as
many more as there are losses (`Shadowed`); the states stay the same but for the retries left and
the last fault, and the listeners are given the same pages.

The simulation is by induction on the steps of the first run.  A page leads to the same page; a
continuation is answered in both runs, in the second one after its losses; and where the first
script is used up, the first run ends with a failure of the transport (`steps_usedUp`).
-/

namespace ServerBrowser

open Scenario

/-- Whether two listeners do the same with each page, in histories that differ by what a listing
does over a socket only.  They leave their pages as they are and do nothing on that socket. -/
def Listener.Agrees (first second : Listener Play) (socket : Nat) : Prop :=
  ∀ page browser (history history' : History), history.apart socket = history'.apart socket →
    ∃ result browser' more,
      first page browser history = ((result, browser'), history ++ .paged page :: more) ∧
      second page browser history' = ((result, browser'), history' ++ .paged page :: more) ∧
      (∀ left, result = .ok left → left = page) ∧ ∀ event ∈ more, event.socket? ≠ some socket

/-- Whether what a listener does depends on the page, on how many pages were handed on before, and
on the browser only.  It leaves its pages as they are and runs no query. -/
def Listener.CountsPages (listener : Listener Play) : Prop :=
  ∀ page browser count, ∃ result browser' asides,
    (∀ history : History, history.pageCount = count →
      listener page browser history = ((result, browser'), history ++ .paged page :: asides)) ∧
      (∀ left, result = .ok left → left = page) ∧ History.Asides asides

/-- Such a listener agrees with itself. -/
theorem Listener.CountsPages.agrees {listener : Listener Play} (h : listener.CountsPages)
    (socket : Nat) : listener.Agrees listener socket := by
  intro page browser history history' hapart
  have hcount : history'.pageCount = history.pageCount := by
    rw [← History.pageCount_apart socket, ← hapart, History.pageCount_apart]
  obtain ⟨result, browser', asides, hplay, hleft, hasides⟩ := h page browser history.pageCount
  have hnone : ∀ event ∈ asides, event.socket? = none :=
    hasides.all
  refine ⟨result, browser', asides, hplay history rfl, hplay history' hcount, hleft, ?_⟩
  exact fun event hevent => by simp [hnone event hevent]

/-- Behaviours that leave pages as they are, run no query and count pages are such listeners. -/
theorem Behaviour.countsPages_listener {behaviour : Behaviour}
    (h : ∀ history, ∀ action ∈ behaviour history, action.watches = true)
    (hcount : ∀ history history' : History, history.pageCount = history'.pageCount →
      behaviour history = behaviour history')
    (ask : Listener Play → Play (Except Fault Int)) (depth : Nat) :
    (behaviour.listener ask depth : Listener Play).CountsPages := by
  intro page browser count
  by_cases hsome : ∃ base : History, base.pageCount = count
  · obtain ⟨base, rfl⟩ := hsome
    obtain ⟨result, browser', asides, hplay, hleft, hasides⟩ :=
      listener_asides (fun past action hmem => Action.ne_query_of_watches (h past action hmem)) page
        browser base
    refine ⟨result, browser', asides, ?_, hleft (h base), hasides⟩
    intro history hhistory
    exact hplay ask depth history (hcount history base hhistory)
  · refine ⟨.ok page, browser, [], ?_, by simp, History.asides_nil⟩
    intro history hhistory
    exact absurd ⟨history, hhistory⟩ hsome

/-- A script that answers every packet, and the script with losses put in: the first exchange is the
same, and before each later one there are lost attempts, at most the given number. -/
structure Script.Loses (exact lossy : Script) (most : Nat) (first : List UInt8)
    (exchanges : List (List Loss × List UInt8)) : Prop where
  opens : exact.opening = none ∧ lossy.opening = none
  sends : ∀ entry ∈ exact.sends, entry = none
  receives : exact.receives = .ok first :: exchanges.map fun exchange => .ok exchange.2
  lossySends : ∃ others, lossy.sends =
    none :: (exchanges.flatMap fun exchange => exchange.1.map Loss.send ++ [none]) ++ others
  lossyReceives : lossy.receives =
    .ok first :: exchanges.flatMap fun exchange =>
      exchange.1.flatMap Loss.receives ++ [.ok exchange.2]
  bounded : ∀ exchange ∈ exchanges, exchange.1.length ≤ most ∧
    ∀ loss ∈ exchange.1, loss.fault.isTransport = true

namespace Listing

/-- Whether a run comes to an end that is no matter of the transport: it is done, a page breaks the
format, or the listener fails. -/
def Settled : Except Fault State → Prop
  | .ok _ => True
  | .error fault => (∃ cause, fault = .listenerFailed cause) ∨
      ∃ packet, Response.parse packet = .error fault

theorem Settled.isTransport {fault : Fault} (h : Settled (.error fault)) :
    fault.isTransport = false := by
  obtain ⟨cause, rfl⟩ | ⟨packet, hparse⟩ := h
  · rfl
  · exact Response.isTransport_of_parse hparse

/-- The scripts of two runs side by side: what they have left are the same exchanges, without losses
and with them, and what has happened apart from the two listings is the same. -/
structure Aligned (listing : Listing) (exact lossy : List Script) (socket : Nat)
    (exchanges : List (List Loss × List UInt8)) (history history' : History) : Prop where
  exact : ∃ sends, (∀ entry ∈ sends, entry = none) ∧
    Script.Ahead exact socket history sends (exchanges.map fun exchange => .ok exchange.2)
  lossy : ∃ others, Script.Ahead lossy socket history'
    ((exchanges.flatMap fun exchange => exchange.1.map Loss.send ++ [none]) ++ others)
    (exchanges.flatMap fun exchange => exchange.1.flatMap Loss.receives ++ [.ok exchange.2])
  apart : history.apart socket = history'.apart socket
  bounded : ∀ exchange ∈ exchanges, exchange.1.length ≤ listing.settings.retryCount ∧
    ∀ loss ∈ exchange.1, loss.fault.isTransport = true

section Runs

variable {listing : Listing} {exact lossy : List Script} {first second : Listener Play}
  {socket limit count : Nat} {exchanges : List (List Loss × List UInt8)}
  {losses losses' : List (List Loss)} {state state' next next' : State}
  {browser browser' : Browser} {history history' more more' rest : History} {event : Event}
  {page : List ServerAddress}

theorem join_head?_of_none {sends : List (Option Fault)} (h : ∀ entry ∈ sends, entry = none) :
    sends.head?.join = none := by
  cases sends with
  | nil => rfl
  | cons entry sends => exact h entry (by simp)

/-! ## runs in the shadow of others -/

/-- That a run in a state goes on to an end, and if that is settled, a second run goes on to the
same end: with the same standing and the same result, after the same events with losses put in. -/
def Shadowed (listing : Listing) (exact lossy : List Script) (first second : Listener Play)
    (socket : Nat) (losses : List (List Loss)) (limit : Nat) (state state' : State)
    (browser : Browser) (history history' : History) : Prop :=
  ∃ result browser' since,
    listing.steps (scripted exact) first socket limit state browser history =
      ((result, browser'), history ++ since) ∧
    (∀ packet, state.phase ≠ .start → since.unlogged.head? ≠ some (.sent socket packet)) ∧
    ∀ final, result = .ok final → Settled (outcome final) →
      ∃ limit' final' since',
        listing.steps (scripted lossy) second socket limit' state' browser history' =
          ((.ok final', browser'), history' ++ since') ∧
        SameStanding final final' ∧
        (outcome final').map State.phase = (outcome final).map State.phase ∧
        since'.unlogged = History.insertLosses socket losses since.unlogged

theorem shadowed_zero (h : state.isFinished = false) :
    Shadowed listing exact lossy first second socket losses 0 state state' browser history
      history' := by
  refine ⟨.error .exhausted, browser, [], ?_, by simp, by simp⟩
  rw [List.append_nil]
  exact steps_zero h

/-- A run that is over is shadowed by one that is over in the same way. -/
theorem shadowed_finished (hfinished : state.isFinished = true)
    (hstanding : SameStanding state state')
    (houtcome : (outcome state').map State.phase = (outcome state).map State.phase) :
    Shadowed listing exact lossy first second socket losses limit state state' browser history
      history' := by
  refine ⟨.ok state, browser, [], ?_, by simp, ?_⟩
  · rw [List.append_nil]
    exact steps_of_finished hfinished
  · rintro final ⟨⟩ -
    refine ⟨0, state', [], ?_, hstanding, houtcome, rfl⟩
    rw [List.append_nil]
    exact steps_of_finished (hstanding.isFinished.trans hfinished)

/-- A step of the first run is shadowed by some steps of the second one. -/
theorem Shadowed.step
    (h : Shadowed listing exact lossy first second socket losses' limit next next' browser'
      (history ++ more) (history' ++ more'))
    (hfinished : state.isFinished = false) (hnext : next.phase ≠ .start)
    (hstep : listing.step (scripted exact) first socket state browser history =
      ((.ok next, browser'), history ++ more))
    (hsteps : ∀ limit, listing.steps (scripted lossy) second socket (count + limit) state' browser
      history' = listing.steps (scripted lossy) second socket limit next' browser'
        (history' ++ more'))
    (hmore : more.unlogged = event :: rest)
    (hevent : ∀ packet, state.phase ≠ .start → event ≠ .sent socket packet)
    (hinsert : ∀ rest : History, (∀ packet, rest.head? ≠ some (.sent socket packet)) →
      History.insertLosses socket losses (more.unlogged ++ rest) =
        more'.unlogged ++ History.insertLosses socket losses' rest) :
    Shadowed listing exact lossy first second socket losses (limit + 1) state state' browser history
      history' := by
  obtain ⟨result, browser'', since, hplay, hunsent, hshadow⟩ := h
  refine ⟨result, browser'', more ++ since, ?_, ?_, ?_⟩
  · rw [steps_of_ok hfinished hstep, hplay, List.append_assoc]
  · intro packet hstart
    rw [History.unlogged_append, hmore]
    simpa using hevent packet hstart
  · intro final hfinal hsettled
    obtain ⟨limit', final', since', hplay', hstanding, houtcome, hsince⟩ :=
      hshadow final hfinal hsettled
    refine ⟨count + limit', final', more' ++ since', ?_, hstanding, houtcome, ?_⟩
    · rw [hsteps, hplay', List.append_assoc]
    · rw [History.unlogged_append, History.unlogged_append, hsince,
        hinsert _ fun packet => hunsent packet hnext]

/-! ## scripts that are used up -/

/-- A listing that continues over a script with nothing left ends with a failure of the transport,
unless its steps are used up. -/
theorem steps_usedUp {sends : List (Option Fault)} {packet : List UInt8}
    (phase : state.phase = .continuing) (hsends : ∀ entry ∈ sends, entry = none)
    (hahead : Script.Ahead exact socket history sends [])
    (hquery : (listing.query state.cursor).toBytes = .ok packet) (limit : Nat) :
    ∃ result browser' since,
      listing.steps (scripted exact) first socket limit state browser history =
        ((result, browser'), history ++ since) ∧
      (∀ packet, since.unlogged.head? ≠ some (.sent socket packet)) ∧
      ∀ final, result = .ok final → ¬ Settled (outcome final) := by
  have hfinished : state.isFinished = false := by simp [State.isFinished, phase]
  induction limit generalizing state sends browser history with
  | zero =>
      refine ⟨.error .exhausted, browser, [], ?_, by simp, by simp⟩
      rw [List.append_nil]
      exact steps_zero hfinished
  | succ limit ih =>
      obtain ⟨next, more, hstep, hmore, hnext⟩ :=
        step_usedUp phase hahead (join_head?_of_none hsends) hquery first browser
      obtain rfl | ⟨hphase, hcursor, hafter⟩ := hnext
      · refine ⟨.ok (state.endedBy Script.Ending.direct.noReceive), browser, more, ?_, ?_, ?_⟩
        · rw [steps_of_ok hfinished hstep, steps_of_finished rfl]
        · simp [hmore]
        · rintro final ⟨⟩ hsettled
          cases hsettled.isTransport
      · have hrest : ∀ entry ∈ sends.tail, entry = none :=
          fun entry hentry => hsends entry (List.mem_of_mem_tail hentry)
        rw [← hcursor] at hquery
        have hunfinished : next.isFinished = false := by simp [State.isFinished, hphase]
        obtain ⟨result, browser', since, hplay, -, hresult⟩ :=
          ih hphase hrest hafter hquery hunfinished
        refine ⟨result, browser', more ++ since, ?_, ?_, hresult⟩
        · rw [steps_of_ok hfinished hstep, hplay, List.append_assoc]
        · simp [hmore]

/-! ## side by side -/

/-- What both listings add, without taking an entry, leaves them side by side. -/
theorem Aligned.append (h : Aligned listing exact lossy socket exchanges history history')
    (hmore : ∀ event ∈ more, event.socket? ≠ some socket) :
    Aligned listing exact lossy socket exchanges (history ++ more) (history' ++ more) := by
  obtain ⟨sends, hsends, hexact⟩ := h.exact
  obtain ⟨others, hlossy⟩ := h.lossy
  have htakes : ∀ event ∈ more, Script.takes socket event = false :=
    fun event hevent => History.takes_of_ne (hmore event hevent)
  refine ⟨⟨sends, hsends, hexact.append htakes⟩, ⟨others, hlossy.append htakes⟩, ?_, h.bounded⟩
  rw [History.apart_append, History.apart_append, h.apart]

/-- A packet that breaks the format ends a listing. -/
theorem settle_parse_error {packet : List UInt8} {fault : Fault}
    (h : Response.parse packet = .error fault) (state : State) :
    state.settle ((Except.error fault).map state.withPage) = .ok (state.endedBy fault) := by
  rw [Except.map, State.settle, State.afterFault, if_pos (Response.inFamily_of_parse h)]
  rfl

/-- A fault of the family ends both runs in the same way. -/
theorem shadowed_endedBy (hstanding : SameStanding state state') (fault : Fault) :
    Shadowed listing exact lossy first second socket losses limit (state.endedBy fault)
      (state'.endedBy fault) browser history history' := by
  have hended : SameStanding (state.endedBy fault) (state'.endedBy fault) :=
    ⟨rfl, hstanding.cursor, hstanding.page, hstanding.pages, hstanding.servers⟩
  exact shadowed_finished rfl hended rfl

/-- That a listing which is to deliver a page is shadowed. -/
def DeliversAlike (listing : Listing) (exact lossy : List Script) (first second : Listener Play)
    (socket limit : Nat) : Prop :=
  ∀ (state state' : State) (exchanges : List (List Loss × List UInt8)) (packet : List UInt8)
    (browser : Browser) (history history' : History),
    state.phase = .delivering → Response.parse packet = .ok state.page →
    SameStanding state state' → Aligned listing exact lossy socket exchanges history history' →
    Shadowed listing exact lossy first second socket (exchanges.map Prod.fst) limit state state'
      browser history history'

/-- That a listing which continues is shadowed, by one that has all retries left. -/
def ContinuesAlike (listing : Listing) (exact lossy : List Script) (first second : Listener Play)
    (socket limit : Nat) : Prop :=
  ∀ (state state' : State) (exchanges : List (List Loss × List UInt8)) (packet : List UInt8)
    (browser : Browser) (history history' : History),
    state.phase = .continuing → (listing.query state.cursor).toBytes = .ok packet →
    SameStanding state state' → state'.retriesLeft = listing.settings.retryCount →
    Aligned listing exact lossy socket exchanges history history' →
    Shadowed listing exact lossy first second socket (exchanges.map Prod.fst) limit state state'
      browser history history'

/-- A step that both runs take, and that is not about the socket, needs no losses. -/
theorem Shadowed.together
    (h : Shadowed listing exact lossy first second socket losses limit next next' browser'
      (history ++ .paged page :: more) (history' ++ .paged page :: more))
    (hfinished : state.isFinished = false) (hfinished' : state'.isFinished = false)
    (hnext : next.phase ≠ .start)
    (hstep : listing.step (scripted exact) first socket state browser history =
      ((.ok next, browser'), history ++ .paged page :: more))
    (hstep' : listing.step (scripted lossy) second socket state' browser history' =
      ((.ok next', browser'), history' ++ .paged page :: more))
    (hmore : ∀ event ∈ more, event.socket? ≠ some socket) :
    Shadowed listing exact lossy first second socket losses (limit + 1) state state' browser history
      history' := by
  have hsteps (limit : Nat) :
      listing.steps (scripted lossy) second socket (1 + limit) state' browser history' =
        listing.steps (scripted lossy) second socket limit next' browser'
          (history' ++ .paged page :: more) := by
    rw [Nat.add_comm, steps_of_ok hfinished' hstep']
  have hfront : ∀ event ∈ History.unlogged (.paged page :: more), event.socket? ≠ some socket := by
    intro event hevent
    obtain rfl | hevent := List.mem_cons.1 (List.mem_filter.1 hevent).1
    · simp [Event.socket?]
    · exact hmore event hevent
  refine h.step hfinished hnext hstep hsteps rfl (by simp) ?_
  intro rest hrest
  exact History.insertLosses_append hfront hrest

/-- Both listeners are given the same page, and do the same with it. -/
theorem deliversAlike_succ (hagrees : first.Agrees second socket)
    (hcontinues : ContinuesAlike listing exact lossy first second socket limit) :
    DeliversAlike listing exact lossy first second socket (limit + 1) := by
  intro state state' exchanges packet browser history history' phase hpage hstanding haligned
  have hfinished : state.isFinished = false := by simp [State.isFinished, phase]
  have hfinished' : state'.isFinished = false := hstanding.isFinished.trans hfinished
  obtain ⟨result, browser', more, hfirst, hsecond, hleft, hmore⟩ :=
    hagrees state.page.servers browser history history' haligned.apart
  have hstep : listing.step (scripted exact) first socket state browser history = _ :=
    step_deliver phase hfirst
  have hstep' : listing.step (scripted lossy) second socket state' browser history' = _ :=
    step_deliver (hstanding.phase.trans phase) (by rw [hstanding.page]; exact hsecond)
  cases result with
  | error fault =>
      have hended : Shadowed listing exact lossy first second socket (exchanges.map Prod.fst) limit
          (state.endedBy (.listenerFailed fault)) (state'.endedBy (.listenerFailed fault)) browser'
          (history ++ .paged state.page.servers :: more)
          (history' ++ .paged state.page.servers :: more) := shadowed_endedBy hstanding _
      exact hended.together hfinished hfinished' (by simp [State.endedBy]) hstep hstep' hmore
  | ok left =>
      obtain rfl := hleft left rfl
      rw [handedBack, settle_delivered] at hstep hstep'
      have hcounted : SameStanding (state.counted state.page.servers)
          (state'.counted state.page.servers) := by
        refine ⟨hstanding.phase, hstanding.cursor, hstanding.page, ?_, ?_⟩
        · simp [State.counted, hstanding.pages]
        · simp [State.counted, hstanding.servers]
      cases hend : state.page.isLast with
      | true =>
          rw [delivered_of_isLast _ hend] at hstep
          rw [delivered_of_isLast _ (by rw [hstanding.page]; exact hend)] at hstep'
          have hdone : Shadowed listing exact lossy first second socket (exchanges.map Prod.fst)
              limit { state.counted state.page.servers with phase := .done }
              { state'.counted state.page.servers with phase := .done } browser'
              (history ++ .paged state.page.servers :: more)
              (history' ++ .paged state.page.servers :: more) :=
            shadowed_finished rfl
              ⟨rfl, hcounted.cursor, hcounted.page, hcounted.pages, hcounted.servers⟩ rfl
          exact hdone.together hfinished hfinished' (by simp) hstep hstep' hmore
      | false =>
          obtain ⟨hrecords, hservers⟩ := Response.parse_eq_ok hpage
          obtain ⟨last, hlast⟩ : ∃ last, state.page.servers.getLast? = some last :=
            ⟨_, List.getLast?_eq_some_getLast (hservers hend)⟩
          obtain ⟨request, hquery, -⟩ :=
            (listing.query last).cursor?_toBytes (hrecords last (List.mem_of_getLast? hlast)) rfl
          rw [delivered_of_getLast? hend hlast] at hstep
          rw [delivered_of_getLast? (by rw [hstanding.page]; exact hend) hlast] at hstep'
          have hpaged : ∀ event ∈ .paged state.page.servers :: more,
              event.socket? ≠ some socket := by
            simpa [Event.socket?] using hmore
          have hgoes := hcontinues
            { state.counted state.page.servers with
              phase := .continuing
              cursor := last
              retriesLeft := listing.settings.retryCount
              lastFault := none }
            { state'.counted state.page.servers with
              phase := .continuing
              cursor := last
              retriesLeft := listing.settings.retryCount
              lastFault := none }
            exchanges request browser' _ _ rfl hquery
            ⟨rfl, rfl, hcounted.page, hcounted.pages, hcounted.servers⟩ rfl (haligned.append hpaged)
          exact hgoes.together hfinished hfinished' (by simp) hstep hstep' hmore

/-- Both runs decode the same packet, the second one after the blocks of its losses. -/
theorem shadowed_decoded {back : State} {blocks : History} {reply : List UInt8}
    (hdelivers : DeliversAlike listing exact lossy first second socket limit)
    (hfinished : state.isFinished = false) (hstanding : SameStanding state back)
    (hstep : listing.step (scripted exact) first socket state browser history =
      ((state.settle ((Response.parse reply).map state.withPage), browser), history ++ more))
    (hback : ∀ limit,
      listing.steps (scripted lossy) second socket (count + limit) state' browser history' =
        listing.steps (scripted lossy) second socket limit back browser (history' ++ blocks))
    (hstep' : listing.step (scripted lossy) second socket back browser (history' ++ blocks) =
      ((back.settle ((Response.parse reply).map back.withPage), browser),
        history' ++ blocks ++ more'))
    (hmore : more.unlogged = event :: rest) (hevent : ∀ packet, event ≠ .sent socket packet)
    (hinsert : ∀ rest : History, History.insertLosses socket losses (more.unlogged ++ rest) =
      History.unlogged (blocks ++ more') ++
        History.insertLosses socket (exchanges.map Prod.fst) rest)
    (haligned : Aligned listing exact lossy socket exchanges (history ++ more)
      (history' ++ blocks ++ more')) :
    Shadowed listing exact lossy first second socket losses (limit + 1) state state' browser history
      history' := by
  have hunfinished : back.isFinished = false := hstanding.isFinished.trans hfinished
  rw [List.append_assoc] at haligned
  have hgoes {next next' : State}
      (hshadowed : Shadowed listing exact lossy first second socket (exchanges.map Prod.fst)
        limit next next' browser (history ++ more) (history' ++ (blocks ++ more')))
      (hnext : next.phase ≠ .start)
      (hstep : listing.step (scripted exact) first socket state browser history =
        ((.ok next, browser), history ++ more))
      (hstep' : listing.step (scripted lossy) second socket back browser (history' ++ blocks) =
        ((.ok next', browser), history' ++ blocks ++ more')) :
      Shadowed listing exact lossy first second socket losses (limit + 1) state state' browser
        history history' := by
    have hall (limit : Nat) : listing.steps (scripted lossy) second socket (count + 1 + limit)
        state' browser history' =
        listing.steps (scripted lossy) second socket limit next' browser
          (history' ++ (blocks ++ more')) := by
      rw [Nat.add_assoc, hback, Nat.add_comm, steps_of_ok hunfinished hstep', List.append_assoc]
    exact hshadowed.step hfinished hnext hstep hall hmore (fun packet _ => hevent packet)
      fun rest _ => hinsert rest
  cases hparse : Response.parse reply with
  | error fault =>
      rw [hparse, settle_parse_error hparse] at hstep hstep'
      exact hgoes (shadowed_endedBy hstanding fault) (by simp [State.endedBy]) hstep hstep'
  | ok page =>
      have hpaged : SameStanding (state.withPage page) (back.withPage page) :=
        ⟨rfl, hstanding.cursor, rfl, hstanding.pages, hstanding.servers⟩
      rw [hparse] at hstep hstep'
      exact hgoes (hdelivers (state.withPage page) (back.withPage page) exchanges reply browser
        _ _ rfl hparse hpaged haligned) (by simp [State.withPage]) hstep hstep'

/-- A continuation is answered in both runs, in the second one after its losses. -/
theorem continuesAlike_succ
    (hdelivers : DeliversAlike listing exact lossy first second socket limit) :
    ContinuesAlike listing exact lossy first second socket (limit + 1) := by
  intro state state' exchanges packet browser history history' phase hquery hstanding hleft haligned
  have hfinished : state.isFinished = false := by simp [State.isFinished, phase]
  obtain ⟨sends, hsends, hexact⟩ := haligned.exact
  obtain ⟨others, hlossy⟩ := haligned.lossy
  cases exchanges with
  | nil =>
      obtain ⟨result, browser', since, hplay, hunsent, hresult⟩ :=
        steps_usedUp phase hsends hexact hquery (limit + 1)
      refine ⟨result, browser', since, hplay, fun packet _ => hunsent packet, ?_⟩
      intro final hfinal hsettled
      exact absurd hsettled (hresult final hfinal)
  | cons exchange exchanges =>
      obtain ⟨lost, reply⟩ := exchange
      obtain ⟨⟨hbound, htransport⟩, hbounded⟩ := List.forall_mem_cons.1 haligned.bounded
      have hentries : Script.Ahead lossy socket history'
          (lost.map Loss.send ++ none :: ((exchanges.flatMap fun exchange =>
            exchange.1.map Loss.send ++ [none]) ++ others))
          (lost.flatMap Loss.receives ++ .ok reply :: (exchanges.flatMap fun exchange =>
            exchange.1.flatMap Loss.receives ++ [.ok exchange.2])) := by
        simpa using hlossy
      obtain ⟨more, hstep, hmore, hown, hafter⟩ :=
        step_answered phase hexact (join_head?_of_none hsends) hquery first browser
      obtain ⟨blocks, back, hback, hsteps, hblocks, hownBlocks, hlate⟩ :=
        steps_lost (hstanding.phase.trans phase) hentries htransport
          (by rw [hleft]; exact_mod_cast hbound) (by rw [hstanding.cursor]; exact hquery) second
          browser
      have hsame : SameStanding state back := hstanding.trans hback
      obtain ⟨more', hstep', hmore', hown', hafter'⟩ :=
        step_answered (hsame.phase.trans phase) hlate rfl (by rw [hsame.cursor]; exact hquery)
          second browser
      have hrest : ∀ entry ∈ sends.tail, entry = none :=
        fun entry hentry => hsends entry (List.mem_of_mem_tail hentry)
      -- The events of the first run's attempt, with the blocks of its losses before them.
      have hinsert (rest : History) :
          History.insertLosses socket (lost :: exchanges.map Prod.fst) (more.unlogged ++ rest) =
            History.unlogged (blocks ++ more') ++
              History.insertLosses socket (exchanges.map Prod.fst) rest := by
        rw [History.unlogged_append, hblocks, hmore', hmore]
        simp only [List.cons_append, List.nil_append, List.append_assoc]
        rw [History.insertLosses_attempt, History.insertLosses_cons rfl,
          History.insertLosses_cons rfl]
      have hapart : History.apart socket (history ++ more) =
          History.apart socket (history' ++ blocks ++ more') := by
        simp only [History.apart_append, hown.apart, hownBlocks.apart, hown'.apart, haligned.apart,
          List.append_nil]
      exact shadowed_decoded hdelivers hfinished hsame hstep hsteps hstep' hmore (by simp) hinsert
        ⟨⟨sends.tail, hrest, hafter⟩, ⟨others, hafter'⟩, hapart, hbounded⟩

/-- However many steps the first run takes, it is shadowed from a page on. -/
theorem deliversAlike (hagrees : first.Agrees second socket) (limit : Nat) :
    DeliversAlike listing exact lossy first second socket limit ∧
      ContinuesAlike listing exact lossy first second socket limit := by
  induction limit with
  | zero =>
      constructor
      · intro state state' exchanges packet browser history history' phase _ _ _
        exact shadowed_zero (by simp [State.isFinished, phase])
      · intro state state' exchanges packet browser history history' phase _ _ _ _
        exact shadowed_zero (by simp [State.isFinished, phase])
  | succ limit ih =>
      obtain ⟨hdelivers, hcontinues⟩ := ih
      exact ⟨deliversAlike_succ hagrees hcontinues, continuesAlike_succ hdelivers⟩

/-- Both runs are given the same first packet. -/
theorem shadowed_awaiting (hagrees : first.Agrees second socket)
    {sends sends' : List (Option Fault)} {reply : List UInt8} (phase : state.phase = .awaiting)
    (hstanding : SameStanding state state')
    (hsends : ∀ entry ∈ sends, entry = none)
    (hexact : Script.Ahead exact socket history sends
      (.ok reply :: exchanges.map fun exchange => .ok exchange.2))
    (hlossy : Script.Ahead lossy socket history'
      ((exchanges.flatMap fun exchange => exchange.1.map Loss.send ++ [none]) ++ sends')
      (.ok reply :: exchanges.flatMap fun exchange =>
        exchange.1.flatMap Loss.receives ++ [.ok exchange.2]))
    (hapart : history.apart socket = history'.apart socket)
    (hbounded : ∀ exchange ∈ exchanges, exchange.1.length ≤ listing.settings.retryCount ∧
      ∀ loss ∈ exchange.1, loss.fault.isTransport = true) (limit : Nat) :
    Shadowed listing exact lossy first second socket (exchanges.map Prod.fst) limit state state'
      browser history history' := by
  have hfinished : state.isFinished = false := by simp [State.isFinished, phase]
  cases limit with
  | zero => exact shadowed_zero hfinished
  | succ limit =>
      obtain ⟨more, hstep, hmore, hown, hafter⟩ :=
        step_awaited phase hexact listing first browser
      obtain ⟨more', hstep', hmore', hown', hafter'⟩ :=
        step_awaited (hstanding.phase.trans phase) hlossy listing second browser
      have hinsert (rest : History) :
          History.insertLosses socket (exchanges.map Prod.fst) (more.unlogged ++ rest) =
            History.unlogged ([] ++ more') ++
              History.insertLosses socket (exchanges.map Prod.fst) rest := by
        rw [List.nil_append, hmore, hmore']
        simp only [List.cons_append, List.nil_append]
        rw [History.insertLosses_cons rfl, History.insertLosses_cons rfl]
      have hagain : History.apart socket (history ++ more) =
          History.apart socket (history' ++ [] ++ more') := by
        simp only [History.apart_append, hown.apart, hown'.apart, hapart, List.append_nil]
      rw [← List.append_nil history'] at hstep' hafter'
      have hback (limit : Nat) : listing.steps (scripted lossy) second socket (0 + limit) state'
          browser history' =
          listing.steps (scripted lossy) second socket limit state' browser (history' ++ []) := by
        rw [Nat.zero_add, List.append_nil]
      exact shadowed_decoded (deliversAlike hagrees limit).1 hfinished hstanding hstep hback hstep'
        hmore (by simp) hinsert ⟨⟨sends, hsends, hafter⟩, ⟨sends', hafter'⟩, hagain, hbounded⟩

/-- A run over a script that answers every packet is shadowed by the run over the script with losses
put in. -/
theorem shadowed_initial {script lossyScript : Script} {reply : List UInt8} (others : List Script)
    (hloses : script.Loses lossyScript listing.settings.retryCount reply exchanges)
    (hagrees : first.Agrees second 0) (limit : Nat) (browser : Browser) :
    Shadowed listing (script :: others) (lossyScript :: others) first second 0
      (exchanges.map Prod.fst) limit listing.initial listing.initial browser (listing.opened [])
      (listing.opened []) := by
  have hfinished : listing.initial.isFinished = false := rfl
  obtain ⟨packet, hquery, -⟩ :=
    (listing.query .null).cursor?_toBytes ServerAddress.isRecord_null rfl
  obtain ⟨sends', hsends'⟩ := hloses.lossySends
  have hexact : Script.Ahead (script :: others) 0 (listing.opened []) script.sends
      (.ok reply :: exchanges.map fun exchange => .ok exchange.2) := by
    rw [← hloses.receives]
    exact ⟨rfl, rfl⟩
  have hlossy : Script.Ahead (lossyScript :: others) 0 (listing.opened [])
      (none :: ((exchanges.flatMap fun exchange => exchange.1.map Loss.send ++ [none]) ++ sends'))
      (.ok reply :: exchanges.flatMap fun exchange =>
        exchange.1.flatMap Loss.receives ++ [.ok exchange.2]) := by
    rw [← List.cons_append, ← hsends', ← hloses.lossyReceives]
    exact ⟨rfl, rfl⟩
  cases limit with
  | zero => exact shadowed_zero hfinished
  | succ limit =>
      have hphase : listing.initial.phase = .start := rfl
      obtain ⟨hstep, hafter⟩ :=
        step_begun hphase hexact (join_head?_of_none hloses.sends) hquery first browser
      obtain ⟨hstep', hafter'⟩ := step_begun hphase hlossy rfl hquery second browser
      have hall (limit : Nat) :
          listing.steps (scripted (lossyScript :: others)) second 0 (1 + limit) listing.initial
            browser (listing.opened []) =
          listing.steps (scripted (lossyScript :: others)) second 0 limit
            { listing.initial with phase := .awaiting, cursor := .null } browser
            (listing.opened [] ++ [.sent 0 packet]) := by
        rw [Nat.add_comm, steps_of_ok hfinished hstep']
      have hrest : ∀ entry ∈ script.sends.tail, entry = none :=
        fun entry hentry => hloses.sends entry (List.mem_of_mem_tail hentry)
      have hawaiting : Shadowed listing (script :: others) (lossyScript :: others) first second 0
          (exchanges.map Prod.fst) limit
          { listing.initial with phase := .awaiting, cursor := .null }
          { listing.initial with phase := .awaiting, cursor := .null } browser _ _ :=
        shadowed_awaiting hagrees rfl ⟨rfl, rfl, rfl, rfl, rfl⟩ hrest hafter hafter' rfl
          hloses.bounded limit
      refine hawaiting.step hfinished (by simp) hstep hall rfl (by simp [initial]) ?_
      intro rest _
      exact History.insertLosses_cons rfl

end Runs

/-- **Lost attempts are not seen.**  Take a script that answers every packet, and the same script
with lost attempts put in before each continuation, at most as many as there are retries.  Where the
run over the first one is done, or ends since a page breaks the format or the listener fails, the
run over the second one, given enough steps, ends in the same way: with the same result or fault,
the same counts and the same cursor, and after the same pages.  Its history is that of the first run
with a block for each loss put in. -/
theorem run_transparent (listing : Listing) {script lossy : Script} (others : List Script)
    {reply : List UInt8} {exchanges : List (List Loss × List UInt8)}
    {listener listener' : Listener Play} (limit : Nat) (browser : Browser)
    (hloses : script.Loses lossy listing.settings.retryCount reply exchanges)
    (hagrees : listener.Agrees listener' 0)
    (hsettled : Settled
      (listing.run (scripted (script :: others)) listener limit browser []).1.1) :
    ∃ result result' browser' history history' enough final final',
      listing.run (scripted (script :: others)) listener limit browser [] =
        ((result, browser'), history) ∧
      (∀ more, listing.run (scripted (lossy :: others)) listener' (enough + more) browser [] =
        ((result', browser'), history')) ∧
      result'.map State.phase = result.map State.phase ∧
      (listing.steps (scripted (script :: others)) listener 0 limit listing.initial browser
        (listing.opened [])).1.1 = .ok final ∧
      (listing.steps (scripted (lossy :: others)) listener' 0 enough listing.initial browser
        (listing.opened [])).1.1 = .ok final' ∧
      SameStanding final final' ∧ history'.pages = history.pages ∧
      history'.unlogged = History.insertLosses 0 (exchanges.map Prod.fst) history.unlogged := by
  obtain ⟨hopen, hopen'⟩ := hloses.opens
  have hconnect : (Script.scenario (script :: others) .direct).connect (listing.opened []) =
      .ok () := by
    show Script.answer script.opening = .ok ()
    rw [hopen]
    rfl
  have hconnect' : (Script.scenario (lossy :: others) .direct).connect (listing.opened []) =
      .ok () := by
    show Script.answer lossy.opening = .ok ()
    rw [hopen']
    rfl
  obtain ⟨result, browser', since, hsteps, -, hshadow⟩ :=
    shadowed_initial others hloses hagrees limit browser
  have hrun := run_play listing _ false listener [] hconnect hsteps
  rw [hrun] at hsettled
  cases result with
  | error fault =>
      have hfamily := inFamily_of_steps _ _ _ _ _ hsteps
      have hexpected : fault.inFamily = true := by
        obtain ⟨cause, rfl⟩ | ⟨packet, hparse⟩ := hsettled
        · rfl
        · exact Response.inFamily_of_parse hparse
      rw [hfamily] at hexpected
      cases hexpected
  | ok final =>
      obtain ⟨enough, final', since', hsteps', hstanding, houtcome, hsince⟩ :=
        hshadow final rfl hsettled
      have hrun' (more : Nat) := run_play listing _ false listener' [] hconnect'
        (steps_mono more hsteps' (by simp))
      have hunlogged : History.unlogged (listing.opened [] ++ since' ++
          listing.closing 0 (.ok final')) =
          History.insertLosses 0 (exchanges.map Prod.fst) (History.unlogged (listing.opened [] ++
            since ++ listing.closing 0 (.ok final))) := by
        have hopened : History.unlogged (listing.opened []) =
            [.opened 0 listing.master listing.settings.timeout] := rfl
        have hclosing (state : State) : History.unlogged (listing.closing 0 (.ok state)) =
            [.closed 0] := rfl
        simp only [History.unlogged_append, hopened, hclosing, hsince]
        rw [History.insertLosses_closed, List.singleton_append, List.singleton_append,
          History.insertLosses_cons rfl]
      have hpages := congrArg History.pages hunlogged
      rw [History.pages_unlogged, History.pages_insertLosses, History.pages_unlogged] at hpages
      refine ⟨_, _, browser', _, _, enough, final, final', hrun, hrun', houtcome, ?_, ?_, hstanding,
        hpages, hunlogged⟩
      · rw [hsteps]
      · rw [hsteps']

/-- A script with a page of one server and the end. -/
def twoAnswers : Script where
  receives := [
    .ok (Response.header ++ [1, 2, 3, 4, 105, 135]),
    .ok (Response.header ++ [0, 0, 0, 0, 0, 0])]

/-- The same script with two losses before the end. -/
def twoLosses : Script where
  sends := [none, some (.raised .transport "unreachable"), none, none]
  receives := [
    .ok (Response.header ++ [1, 2, 3, 4, 105, 135]),
    .error (.raised .transport "lost"),
    .ok (Response.header ++ [0, 0, 0, 0, 0, 0])]

/-- The losses of that script. -/
def twoExchanges : List (List Loss × List UInt8) :=
  [([.unsent (.raised .transport "unreachable"), .unanswered (.raised .transport "lost")],
    Response.header ++ [0, 0, 0, 0, 0, 0])]

theorem loses_twoLosses :
    twoAnswers.Loses twoLosses 2 (Response.header ++ [1, 2, 3, 4, 105, 135]) twoExchanges where
  opens := ⟨rfl, rfl⟩
  sends := by simp [twoAnswers]
  receives := rfl
  lossySends := ⟨[], rfl⟩
  lossyReceives := rfl
  bounded := by
    intro exchange hexchange
    obtain rfl := List.mem_singleton.1 hexchange
    simp [Loss.fault]
    decide

/-- The losses of that script are not seen. -/
theorem run_transparent_twoLosses :
    let listing : Listing := ⟨.text "master:27011", [], { retryCount := 2 }⟩
    twoAnswers.Loses twoLosses 2 (Response.header ++ [1, 2, 3, 4, 105, 135]) twoExchanges ∧
      (Listener.always []).Agrees (.always []) 0 ∧
      Settled (listing.run (scripted [twoAnswers]) (.always []) 10 {} []).1.1 ∧
      ∃ result result' browser' history history' enough final final',
        listing.run (scripted [twoAnswers]) (.always []) 10 {} [] =
          ((result, browser'), history) ∧
        (∀ more, listing.run (scripted [twoLosses]) (.always []) (enough + more) {} [] =
          ((result', browser'), history')) ∧
        result'.map State.phase = result.map State.phase ∧
        (listing.steps (scripted [twoAnswers]) (.always []) 0 10 listing.initial {}
          (listing.opened [])).1.1 = .ok final ∧
        (listing.steps (scripted [twoLosses]) (.always []) 0 enough listing.initial {}
          (listing.opened [])).1.1 = .ok final' ∧
        SameStanding final final' ∧ history'.pages = history.pages ∧
        history'.unlogged =
          History.insertLosses 0 (twoExchanges.map Prod.fst) history.unlogged := by
  intro listing
  have hagrees : (Listener.always []).Agrees (.always []) 0 :=
    (Behaviour.countsPages_listener (by simp) (by simp) _ 0).agrees 0
  have hdone : (listing.run (scripted [twoAnswers]) (.always []) 10 {} []).1.1.toOption.map
      State.phase = some .done := by decide +kernel
  have hsettled : Settled (listing.run (scripted [twoAnswers]) (.always []) 10 {} []).1.1 := by
    cases hresult : (listing.run (scripted [twoAnswers]) (.always []) 10 {} []).1.1 with
    | error fault => simp [hresult, Except.toOption] at hdone
    | ok state => trivial
  exact ⟨loses_twoLosses, hagrees, hsettled, run_transparent listing [] 10 {} loses_twoLosses
    hagrees hsettled⟩

end Listing

end ServerBrowser
