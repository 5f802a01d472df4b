import ServerBrowser.Proofs.Listing.Allowance
import ServerBrowser.Proofs.Listing.Requests
import ServerBrowser.Proofs.Listing.Supply
import ServerBrowser.Proofs.Listing.Trace
import ServerBrowser.Proofs.Master

/-!
# ServerBrowser.Proofs.Listing.Budget

What a listing costs at most where its listener runs no query.  All that it may still do is a
budget: so many packets may still arrive, each of them brings one page, and each page but the last
one is followed by an attempt and by its retries.  Every move pays what it does from the budget of
its state, and leaves that of the next one (`Move.pays`); no budget depends on which attempts are
lost, nor on how.

A listing therefore ends after a number of steps that the packets alone bound, with no more pages
delivered than there are packets, and with no more packets sent than the first one and all attempts
for each page (`run_bounded`).
-/

namespace ServerBrowser

open Scenario

variable {scenario : Scenario} {cancellable : Bool} {socket : Nat} {history history' : History}

namespace History

theorem deedCount_singleton (event : Event) (deed : Deed) :
    deedCount [event] deed = if event.deed? = some deed then 1 else 0 := by
  simp [deedCount_cons]

theorem deedCount_look (cancellable : Bool) (deed : Deed) :
    deedCount (look cancellable) deed = 0 := by
  cases cancellable <;> simp [look, deedCount_singleton, Event.deed?]

/-- A delay is a wait at most. -/
theorem deedCount_delay_le (cancellable : Bool) (seconds : Binary64) (deed : Deed) :
    deedCount (delay cancellable seconds) deed ≤ if deed = .wait then 1 else 0 := by
  cases cancellable <;> cases deed <;> simp [delay, deedCount_singleton, Event.deed?]

end History

namespace Listing

variable {listing : Listing} {listener : Listener Play} {state : State}
  {browser browser' : Browser} {left : History → Nat} {retries supply : Nat} {deed : Deed}

/-! ## what the parts of a step do -/

/-- Asking sends one packet at most. -/
theorem Asks.deedCount_le {cursor : ServerAddress} {result : Except Fault Unit}
    (h : listing.Asks scenario socket cursor history result history') :
    ∃ more, history' = history ++ more ∧
      ∀ deed, more.deedCount deed ≤ if deed = .send then 1 else 0 := by
  cases h with
  | unwritten query => exact ⟨[], (List.append_nil _).symm, fun deed => Nat.zero_le _⟩
  | unsent query answer | sent query answer =>
      refine ⟨_, rfl, fun deed => ?_⟩
      cases deed <;> simp [History.deedCount_singleton, Event.deed?]

/-- Waiting for a packet receives it, or nothing. -/
theorem receives_deedCount {result : Except Fault (List UInt8)}
    (h : scenario.Receives socket history result history') :
    ∃ more, history' = history ++ more ∧
      ∀ deed, more.deedCount deed = if deed = .receive then result.isOk.toNat else 0 := by
  cases h with
  | lost answer =>
      refine ⟨_, rfl, fun deed => ?_⟩
      cases deed <;> simp [History.deedCount_singleton, Event.deed?, Except.isOk, Except.toBool]
  | arrived answer =>
      refine ⟨_, List.append_assoc .., fun deed => ?_⟩
      cases deed <;> simp [History.deedCount_cons, Event.deed?, Except.isOk, Except.toBool]

/-- One attempt sends one packet at most, and receives one or nothing. -/
theorem Exchanges.deedCount_le {cursor : ServerAddress} {result : Except Fault (List UInt8)}
    (h : listing.Exchanges scenario socket cursor history result history') :
    ∃ more, history' = history ++ more ∧
      ∀ deed, more.deedCount deed ≤ (if deed = .send then 1 else 0) +
        if deed = .receive then result.isOk.toNat else 0 := by
  cases h with
  | unasked asks =>
      obtain ⟨asked, rfl, hasked⟩ := asks.deedCount_le
      exact ⟨asked, rfl, fun deed => Nat.le_add_right_of_le (hasked deed)⟩
  | asked asks receives =>
      obtain ⟨asked, rfl, hasked⟩ := asks.deedCount_le
      obtain ⟨received, rfl, hreceived⟩ := receives_deedCount receives
      refine ⟨asked ++ received, List.append_assoc .., fun deed => ?_⟩
      rw [History.deedCount_append, hreceived]
      exact Nat.add_le_add_right (hasked deed) _

/-- What an attempt to continue is at most: a wait, a packet that is sent, and one that is received
if there is an answer. -/
def Deed.ofAttempt (answered : Bool) : Deed → Nat
  | .send | .wait => 1
  | .receive => answered.toNat
  | .deliver => 0

theorem attempt_deedCount_le {cursor : ServerAddress} {result : Except Fault (List UInt8)}
    (h : listing.Exchanges scenario socket cursor (listing.readied cancellable history) result
      history') :
    ∃ more, history' = history ++ more ∧
      ∀ deed, more.deedCount deed ≤ Deed.ofAttempt result.isOk deed := by
  obtain ⟨exchanged, rfl, hexchanged⟩ := h.deedCount_le
  refine ⟨_, by rw [readied, List.append_assoc, List.append_assoc], fun deed => ?_⟩
  have hdelay := History.deedCount_delay_le cancellable listing.settings.retryDelay deed
  specialize hexchanged deed
  rw [History.deedCount_append, History.deedCount_append, History.deedCount_look]
  cases deed <;> simp [Deed.ofAttempt] at hdelay hexchanged ⊢ <;> omega

theorem deedCount_decodeEvents (state : State) (packet : List UInt8) (deed : Deed) :
    (decodeEvents state packet).deedCount deed = 0 := by
  rw [decodeEvents, History.deedCount_append, deedCount_logged]
  cases Response.parse packet <;> simp [History.deedCount_cons, Event.deed?]

/-! ## budgets -/

/-- How many things of a kind a listing may still do in a phase at most: there are so many retries
for each continuation, so many packets may still arrive, and the continuation at hand may be tried
again so many times. -/
def Phase.budget (retries supply again : Nat) : Phase → Deed → Nat
  | .start, .send => 1 + supply * (retries + 1)
  | .start, .wait | .awaiting, .send | .awaiting, .wait => supply * (retries + 1)
  | .delivering, .send | .delivering, .wait => (supply + 1) * (retries + 1)
  | .continuing, .send | .continuing, .wait => again + 1 + supply * (retries + 1)
  | .delivering, .deliver => supply + 1
  | .start, .receive | .awaiting, .receive | .delivering, .receive | .continuing, .receive
  | .start, .deliver | .awaiting, .deliver | .continuing, .deliver => supply
  | .done, _ | .failed, _ => 0

/-- The budget of a state. -/
def State.budget (retries supply : Nat) (state : State) : Deed → Nat :=
  state.phase.budget retries supply state.retriesLeft.toNat

/-- The budget that a step leaves: a fault that leaves it leaves none. -/
def budgetAfter (retries supply : Nat) : Except Fault State → Deed → Nat
  | .ok next => next.budget retries supply
  | .error _ => fun _ => 0

/-- With fewer packets to come there is less to be done. -/
theorem budget_mono (phase : Phase) (retries again : Nat) (deed : Deed) {fewer more : Nat}
    (h : fewer ≤ more) :
    phase.budget retries fewer again deed ≤ phase.budget retries more again deed := by
  have hmul : fewer * (retries + 1) ≤ more * (retries + 1) := Nat.mul_le_mul_right _ h
  have hmul' : (fewer + 1) * (retries + 1) ≤ (more + 1) * (retries + 1) :=
    Nat.mul_le_mul_right _ (Nat.succ_le_succ h)
  cases phase <;> cases deed <;> simp only [Phase.budget] <;> omega

/-- A listing that a fault has ended has no budget. -/
theorem budgetAfter_afterFault (state : State) (fault : Fault) (deed : Deed) :
    budgetAfter retries supply (state.afterFault fault) deed = 0 := by
  rw [State.afterFault]
  split <;> rfl

/-! ## moves pay from their budgets -/

/-- A packet that arrives is one less to come: its receipt, its page and all attempts to continue
from it are paid. -/
theorem received_pays {fewer : Nat} (h : fewer < supply) (retries : Nat) (state : State)
    (packet : List UInt8) (deed : Deed) :
    (if deed = .receive then 1 else 0) + budgetAfter retries fewer
        (state.settle ((Response.parse packet).map state.withPage)) deed ≤
      Phase.awaiting.budget retries supply state.retriesLeft.toNat deed := by
  have hmul : (fewer + 1) * (retries + 1) ≤ supply * (retries + 1) := Nat.mul_le_mul_right _ h
  have hnext : budgetAfter retries fewer
      (state.settle ((Response.parse packet).map state.withPage)) deed ≤
        Phase.delivering.budget retries fewer state.retriesLeft.toNat deed := by
    cases Response.parse packet with
    | ok page => exact Nat.le_refl _
    | error fault => exact budgetAfter_afterFault state fault deed ▸ Nat.zero_le _
  cases deed <;> simp [Phase.budget] at hnext ⊢ <;> omega

/-- So is the attempt that brings it. -/
theorem proceeded_pays {fewer : Nat} (h : fewer < supply) (retries : Nat) (state : State)
    (packet : List UInt8) (deed : Deed) :
    Deed.ofAttempt true deed + budgetAfter retries fewer
        (state.settle ((Response.parse packet).map state.withPage)) deed ≤
      Phase.continuing.budget retries supply state.retriesLeft.toNat deed := by
  have hreceived := received_pays h retries state packet deed
  cases deed <;> simp [Deed.ofAttempt, Phase.budget] at hreceived ⊢ <;> omega

/-- An attempt that is lost is paid by a retry. -/
theorem retried_pays (retries supply again : Nat) (deed : Deed) :
    Deed.ofAttempt false deed + Phase.continuing.budget retries supply again deed ≤
      Phase.continuing.budget retries supply (again + 1) deed := by
  cases deed <;> simp [Deed.ofAttempt, Phase.budget] <;> omega

/-- A delivery is paid, and the first attempt to continue with all its retries after it. -/
theorem delivered_pays (listing : Listing) (state : State) (handed : List ServerAddress)
    (supply again : Nat) (deed : Deed) :
    (if deed = .deliver then 1 else 0) +
        budgetAfter listing.settings.retryCount supply (listing.delivered state handed) deed ≤
      Phase.delivering.budget listing.settings.retryCount supply again deed := by
  have hwhole : (supply + 1) * (listing.settings.retryCount + 1) =
      supply * (listing.settings.retryCount + 1) + (listing.settings.retryCount + 1) :=
    Nat.succ_mul _ _
  have hnext : budgetAfter listing.settings.retryCount supply (listing.delivered state handed)
      deed ≤ Phase.continuing.budget listing.settings.retryCount supply
        listing.settings.retryCount deed := by
    cases hlast : state.page.isLast with
    | true =>
        rw [delivered_of_isLast handed hlast]
        exact Nat.zero_le _
    | false =>
        cases hhanded : handed.getLast? with
        | none =>
            rw [List.getLast?_eq_none_iff.1 hhanded, delivered_nil hlast]
            exact Nat.zero_le _
        | some last =>
            rw [delivered_of_getLast? hlast hhanded]
            exact Nat.le_refl _
  cases deed <;> simp [Phase.budget] at hnext ⊢ <;> omega

/-- **Every move pays what it does from the budget of its state,** and leaves that of the next. -/
theorem Move.pays {result : Except Fault State}
    (h : Move listing scenario cancellable listener socket state browser history result browser'
      history')
    (hrations : scenario.Rations socket left) (hhears : listener.Hears) :
    ∃ more, history' = history ++ more ∧ ∀ deed,
      more.deedCount deed +
          budgetAfter listing.settings.retryCount (left (history ++ more)) result deed ≤
        state.budget listing.settings.retryCount (left history) deed := by
  have hmono : ∀ (phase : Phase) (again : Nat) (more : History) (deed : Deed),
      phase.budget listing.settings.retryCount (left (history ++ more)) again deed ≤
        phase.budget listing.settings.retryCount (left history) again deed :=
    fun phase again more deed => budget_mono phase _ again deed (hrations.append_le history more)
  cases h with
  | beginStopped phase set =>
      refine ⟨_, rfl, fun deed => ?_⟩
      rw [History.deedCount_look]
      exact Nat.zero_le _
  | beginFailed phase clear asks =>
      obtain ⟨asked, rfl, hasked⟩ := asks.deedCount_le
      refine ⟨_, List.append_assoc .., fun deed => ?_⟩
      specialize hasked deed
      rw [budgetAfter_afterFault, History.deedCount_append, History.deedCount_look, State.budget,
        phase]
      cases deed <;> simp [Phase.budget] at hasked ⊢ <;> omega
  | begun phase clear asks =>
      obtain ⟨asked, rfl, hasked⟩ := asks.deedCount_le
      refine ⟨_, List.append_assoc .., fun deed => ?_⟩
      have hnext := hmono .awaiting state.retriesLeft.toNat (look cancellable ++ asked) deed
      specialize hasked deed
      rw [History.deedCount_append, History.deedCount_look, State.budget, phase]
      simp only [budgetAfter, State.budget]
      cases deed <;> simp only [Phase.budget, reduceCtorEq, ↓reduceIte] at hasked hnext ⊢ <;> omega
  | awaitFailed phase receives =>
      obtain ⟨received, rfl, hreceived⟩ := receives_deedCount receives
      refine ⟨_, rfl, fun deed => ?_⟩
      rw [hreceived, budgetAfter_afterFault]
      simp [Except.isOk, Except.toBool]
  | @awaited packet _ phase receives =>
      have hless := hrations.arrived_lt receives
      obtain ⟨received, rfl, hreceived⟩ := receives_deedCount receives
      refine ⟨_, List.append_assoc .., fun deed => ?_⟩
      rw [← List.append_assoc, History.deedCount_append, hreceived, deedCount_decodeEvents,
        State.budget, phase]
      exact received_pays (Nat.lt_of_le_of_lt (hrations.append_le _ _) hless) _ state packet deed
  | listenerFailed phase listens =>
      obtain ⟨_, _, asides, hlistens, hasides⟩ := hhears state.page.servers browser history
      cases hlistens.symm.trans listens
      refine ⟨_, rfl, fun deed => ?_⟩
      rw [History.deedCount_cons, deedCount_asides hasides, State.budget, phase]
      cases deed <;> simp [budgetAfter, State.budget, State.endedBy, Phase.budget, Event.deed?]
  | @delivered handed _ _ phase listens =>
      obtain ⟨_, _, asides, hlistens, hasides⟩ := hhears state.page.servers browser history
      cases hlistens.symm.trans listens
      refine ⟨_, rfl, fun deed => ?_⟩
      have hpage : (if (Event.paged state.page.servers).deed? = some deed then 1 else 0) =
          if deed = .deliver then 1 else 0 := by cases deed <;> rfl
      rw [History.deedCount_cons, deedCount_asides hasides, Nat.zero_add, hpage, settle_delivered,
        State.budget, phase]
      exact Nat.le_trans (delivered_pays listing state handed _ state.retriesLeft.toNat deed)
        (hmono .delivering _ _ deed)
  | pauseStopped phase set =>
      refine ⟨_, rfl, fun deed => ?_⟩
      have hdelay := History.deedCount_delay_le cancellable listing.settings.retryDelay deed
      rw [State.budget, phase]
      cases deed <;> simp [budgetAfter, State.budget, State.endedBy, Phase.budget] at hdelay ⊢ <;>
        omega
  | proceedStopped phase clear set =>
      refine ⟨_, List.append_assoc .., fun deed => ?_⟩
      have hdelay := History.deedCount_delay_le cancellable listing.settings.retryDelay deed
      rw [History.deedCount_append, History.deedCount_look, State.budget, phase]
      cases deed <;> simp [budgetAfter, State.budget, State.endedBy, Phase.budget] at hdelay ⊢ <;>
        omega
  | @retried fault _ phase clear exchanges transport again =>
      obtain ⟨tried, rfl, htried⟩ := attempt_deedCount_le exchanges
      refine ⟨_, List.append_assoc .., fun deed => ?_⟩
      have hnext := hmono .continuing (state.retriesLeft - 1).toNat
        (tried ++ [.logged (retryRecord state fault)]) deed
      have hpaid := retried_pays listing.settings.retryCount (left history)
        (state.retriesLeft - 1).toNat deed
      -- An attempt is tried again only while a retry is left, and it is this one that pays.
      have hagain : (state.retriesLeft - 1).toNat + 1 = state.retriesLeft.toNat := by omega
      rw [hagain] at hpaid
      have hlost := Nat.add_le_add (htried deed) hnext
      have hlogged : History.deedCount [.logged (retryRecord state fault)] deed = 0 :=
        deedCount_logged [_] deed
      simp only [budgetAfter, State.budget, phase]
      rw [History.deedCount_append, hlogged]
      exact Nat.le_trans hlost hpaid
  | proceedFailed phase clear exchanges final =>
      obtain ⟨tried, rfl, htried⟩ := attempt_deedCount_le exchanges
      refine ⟨_, rfl, fun deed => ?_⟩
      specialize htried deed
      rw [budgetAfter_afterFault, State.budget, phase]
      cases deed <;> simp [Deed.ofAttempt, Phase.budget, Except.isOk, Except.toBool] at htried ⊢ <;>
        omega
  | @proceeded packet _ phase clear exchanges =>
      have hless := exchanges.left_lt hrations
      obtain ⟨tried, rfl, htried⟩ := attempt_deedCount_le exchanges
      refine ⟨_, List.append_assoc .., fun deed => ?_⟩
      rw [← List.append_assoc, History.deedCount_append, deedCount_decodeEvents, State.budget,
        phase]
      have hpaid := proceeded_pays
        (Nat.lt_of_le_of_lt (hrations.append_le _ (decodeEvents state packet)) hless)
        listing.settings.retryCount state packet deed
      exact Nat.le_trans (Nat.add_le_add_right (htried deed) _) hpaid
  | rested phase =>
      refine ⟨[], (List.append_nil _).symm, fun deed => ?_⟩
      rw [List.append_nil]
      exact Nat.le_of_eq (Nat.zero_add _)

/-! ## whole listings -/

/-- Steps pay what they do from the budget of the state that they start in. -/
theorem steps_pay (hrations : scenario.Rations socket left) (hhears : listener.Hears)
    (listing : Listing) (cancellable : Bool) (limit : Nat) (state : State) (browser : Browser)
    (history : History) :
    ∃ result browser' more,
      listing.steps (scenario.world cancellable) listener socket limit state browser history =
        ((result, browser'), history ++ more) ∧
      ∀ deed, more.deedCount deed ≤
        state.budget listing.settings.retryCount (left history) deed := by
  -- What has been done and what the budget still allows never come to more than at the start.
  obtain ⟨result, browser', history', hsteps, hholds⟩ :=
    steps_induction listing scenario cancellable listener socket
      (fun final _ history' => ∃ more, history' = history ++ more ∧ ∀ deed,
        more.deedCount deed + final.budget listing.settings.retryCount (left history') deed ≤
          state.budget listing.settings.retryCount (left history) deed)
      (fun _ _ history' => ∃ more, history' = history ++ more ∧ ∀ deed,
        more.deedCount deed ≤ state.budget listing.settings.retryCount (left history) deed)
      (by
        rintro here browser _ result browser' history' ⟨before, rfl, hbefore⟩ - hmove
        obtain ⟨more, rfl, hmore⟩ := hmove.pays hrations hhears
        cases result with
        | ok next =>
            refine ⟨before ++ more, List.append_assoc .., fun deed => ?_⟩
            have hpaid := hmore deed
            rw [budgetAfter] at hpaid
            rw [History.deedCount_append]
            exact Nat.le_trans (by omega) (hbefore deed)
        | error fault =>
            refine ⟨before ++ more, List.append_assoc .., fun deed => ?_⟩
            have hpaid := hmore deed
            rw [History.deedCount_append]
            exact Nat.le_trans (by omega) (hbefore deed))
      limit browser ⟨[], (List.append_nil _).symm, fun deed => Nat.le_of_eq (Nat.zero_add _)⟩
  cases result with
  | ok final =>
      obtain ⟨-, more, rfl, hmore⟩ := hholds
      exact ⟨_, _, more, hsteps, fun deed => Nat.le_of_add_right_le (hmore deed)⟩
  | error fault =>
      obtain ⟨more, rfl, hmore⟩ | ⟨rfl, final, more, rfl, hmore⟩ := hholds
      · exact ⟨_, _, more, hsteps, hmore⟩
      · exact ⟨_, _, more, hsteps, fun deed => Nat.le_of_add_right_le (hmore deed)⟩

/-- A listener that runs no query adds to what has happened before. -/
theorem grows_of_hears (hhears : listener.Hears) (page : List ServerAddress) (browser : Browser)
    (history : History) : ∃ more, (listener page browser history).2 = history ++ more := by
  obtain ⟨_, _, asides, hlistens, -⟩ := hhears page browser history
  exact ⟨_, congrArg Prod.snd hlistens⟩

/-- More steps than are needed make no difference. -/
theorem steps_of_need_le (hrations : scenario.Rations socket left) (hhears : listener.Hears)
    (cancellable : Bool) (browser : Browser) {limit : Nat}
    (h : state.need listing.settings.retryCount (left history) ≤ limit) (more : Nat) :
    listing.steps (scenario.world cancellable) listener socket (limit + more) state browser
        history =
      listing.steps (scenario.world cancellable) listener socket limit state browser history := by
  induction limit generalizing state browser history with
  | zero =>
      have hfinished := isFinished_of_need (Nat.le_zero.1 h)
      rw [steps_of_finished hfinished, steps_of_finished hfinished]
  | succ limit ih =>
      cases hfinished : state.isFinished with
      | true => rw [steps_of_finished hfinished, steps_of_finished hfinished]
      | false =>
          obtain ⟨result, browser', history', hmove, hstep⟩ :=
            move_step listing scenario cancellable listener socket state browser history
          rw [Nat.add_right_comm]
          cases result with
          | error fault => rw [steps_of_error hfinished hstep, steps_of_error hfinished hstep]
          | ok next =>
              have hless := hmove.need_lt hrations hfinished (grows_of_hears hhears)
              rw [steps_of_ok hfinished hstep, steps_of_ok hfinished hstep]
              exact ih browser' (Nat.le_of_lt_succ (Nat.lt_of_lt_of_le hless h))

/-- In a scenario a listing begins over the socket that it has asked for. -/
theorem trace_zero_play (listing : Listing) (scenario : Scenario) (cancellable : Bool)
    (listener : Listener Play) (browser : Browser) (history : History) :
    listing.trace (scenario.world cancellable) listener 0 browser history =
      (((scenario.connect (listing.opened history)).map fun _ =>
        (history.socketCount, listing.initial), browser), listing.opened history) := by
  have hconnect := listing.connect_play scenario cancellable browser history
  rw [trace]
  refine (play_bind (log_play listing.startRecord)).trans ((play_bind hconnect).trans ?_)
  cases scenario.connect (listing.opened history) <;> rfl

/-- **Every step is one less to be taken.**  After so many steps a listing is over, or needs as many
fewer. -/
theorem need_of_trace (hrations : scenario.Rations history.socketCount left)
    (hhears : listener.Hears) {count : Nat}
    (h : listing.trace (scenario.world cancellable) listener count browser history =
      ((.ok (socket, state), browser'), history')) :
    socket = history.socketCount ∧ (state.isFinished = true ∨
      count + state.need listing.settings.retryCount (left history') ≤
        listing.initial.need listing.settings.retryCount (left history)) := by
  induction count generalizing state browser' history' with
  | zero =>
      have hzero := listing.trace_zero_play scenario cancellable listener browser history
      rw [h] at hzero
      cases hopen : scenario.connect (listing.opened history) with
      | error fault => rw [hopen] at hzero; cases hzero
      | ok =>
          rw [hopen] at hzero
          cases hzero
          refine ⟨rfl, .inr ?_⟩
          rw [Nat.zero_add, opened_eq]
          exact need_mono listing.initial _ (hrations.append_le ..)
  | succ count ih =>
      obtain ⟨previous, browser₁, history₁, htrace, hstep⟩ := step_of_trace_succ h
      obtain ⟨rfl, hprevious⟩ := ih htrace
      refine ⟨rfl, ?_⟩
      cases hfinished : previous.isFinished with
      | true =>
          cases (step_of_finished hfinished).symm.trans hstep
          exact .inl hfinished
      | false =>
          obtain ⟨_, _, _, hmove, hplay⟩ := move_step listing scenario cancellable listener
            history.socketCount previous browser₁ history₁
          cases hplay.symm.trans hstep
          have hless := hmove.need_lt hrations hfinished (grows_of_hears hhears)
          have hneed := hprevious.resolve_left (by simp [hfinished])
          exact .inr (by omega)

theorem pageCount_eq (history : History) : history.pageCount = history.deedCount .deliver := by
  refine List.countP_congr fun event _ => ?_
  cases event <;> simp [Event.deed?]

/-- The steps that are enough for a listing over a socket that brings so many packets. -/
def enough (listing : Listing) (packets : Nat) : Nat :=
  2 + packets * (listing.settings.retryCount + 2)

variable {packets : Nat}

theorem need_initial_le (listing : Listing) (h : supply ≤ packets) :
    listing.initial.need listing.settings.retryCount supply ≤ listing.enough packets :=
  Nat.add_le_add_left (Nat.mul_le_mul_right _ h) 2

/-- A run with enough steps is the same with more to take. -/
theorem run_of_enough (hrations : scenario.Rations history.socketCount left)
    (hhears : listener.Hears) (listing : Listing) (cancellable : Bool) (browser : Browser)
    (hleft : left history ≤ packets) (more : Nat) :
    listing.run (scenario.world cancellable) listener (listing.enough packets + more) browser
        history =
      listing.run (scenario.world cancellable) listener (listing.enough packets) browser
        history := by
  cases hopen : scenario.connect (listing.opened history) with
  | error fault =>
      rw [run_play_error listing scenario cancellable listener hopen,
        run_play_error listing scenario cancellable listener hopen]
  | ok =>
      have htrace := listing.trace_zero_play scenario cancellable listener browser history
      have hopened : left (listing.opened history) ≤ packets := by
        rw [opened_eq]
        exact Nat.le_trans (hrations.append_le ..) hleft
      rw [hopen] at htrace
      exact run_congr htrace (steps_of_need_le hrations hhears cancellable browser
        (need_initial_le listing hopened) more)

/-- What comes before the steps of a listing, and what comes after them, is none of the things that
it pays. -/
theorem deedCount_enclosed (listing : Listing) (socket : Nat) (more : History)
    (result : Except Fault State) (deed : Deed) :
    (listing.opening socket ++ (more ++ listing.closing socket result)).deedCount deed =
      more.deedCount deed := by
  obtain ⟨records, hclosing⟩ := closing_eq listing socket result
  rw [hclosing, History.deedCount_append, History.deedCount_append, History.deedCount_cons,
    deedCount_logged]
  simp [opening, History.deedCount_cons, Event.deed?]

/-- A run pays all that it does from the budget that a listing begins with. -/
theorem run_pays (hrations : scenario.Rations history.socketCount left) (hhears : listener.Hears)
    (listing : Listing) (cancellable : Bool) (limit : Nat) (browser : Browser) :
    ∃ result browser' since,
      listing.run (scenario.world cancellable) listener limit browser history =
        ((result, browser'), history ++ since) ∧
      ∀ deed, since.deedCount deed ≤
        listing.initial.budget listing.settings.retryCount (left history) deed := by
  cases hopen : scenario.connect (listing.opened history) with
  | error fault =>
      have hrun : listing.run (scenario.world cancellable) listener limit browser history =
          ((.error fault, browser), listing.opened history) :=
        run_play_error listing scenario cancellable listener hopen
      rw [opened_eq] at hrun
      refine ⟨_, _, _, hrun, fun deed => ?_⟩
      exact Nat.zero_le _
  | ok =>
      obtain ⟨result, browser', more, hsteps, hmore⟩ := steps_pay hrations hhears listing
        cancellable limit listing.initial browser (listing.opened history)
      have hrun := run_play listing scenario cancellable listener history hopen hsteps
      rw [opened_eq, List.append_assoc, List.append_assoc] at hrun
      refine ⟨_, _, _, hrun, fun deed => ?_⟩
      rw [deedCount_enclosed]
      refine Nat.le_trans (hmore deed) (budget_mono .start _ _ deed ?_)
      rw [opened_eq]
      exact hrations.append_le ..

/-- **A listing whose listener runs no query ends.**  Over a socket that recites a row of entries
with so many packets, in any mixture with losses, whatever becomes of what is sent and whenever the
cancel signal is set:

* a listing that no fault has ended before is over after enough steps; its run ends with the outcome
  of the state it has come to then, or with that fault, and more steps make no difference to it;
* no more pages are delivered than there are packets;
* no more packets are sent than the first one, and for each packet that arrives one attempt to
  continue and its retries. -/
theorem run_bounded (listing : Listing) (scenario : Scenario) (cancellable : Bool)
    (listener : Listener Play) (entries : List (Except Fault (List UInt8))) (packets : Nat)
    (browser : Browser) (history : History) (hhears : listener.Hears)
    (hrecites : scenario.Recites history.socketCount entries)
    (hpackets : entries.countP Except.isOk = packets) :
    (∀ socket state browser' history',
      listing.trace (scenario.world cancellable) listener (listing.enough packets) browser history =
          ((.ok (socket, state), browser'), history') → state.isFinished = true) ∧
    (listing.run (scenario.world cancellable) listener (listing.enough packets) browser
        history).1.1 =
      (listing.trace (scenario.world cancellable) listener (listing.enough packets) browser
        history).1.1.bind (fun here => outcome here.2) ∧
    (∀ more,
      listing.run (scenario.world cancellable) listener (listing.enough packets + more) browser
          history =
        listing.run (scenario.world cancellable) listener (listing.enough packets) browser
          history) ∧
    ∀ limit, ∃ result browser' since,
      listing.run (scenario.world cancellable) listener limit browser history =
        ((result, browser'), history ++ since) ∧
      since.pageCount ≤ packets ∧
      since.deedCount .send ≤ 1 + packets * (listing.settings.retryCount + 1) := by
  have hrations := hrecites.rations
  have hleft : packetsLeft entries history.socketCount history ≤ packets :=
    hpackets ▸ packetsLeft_le entries history.socketCount history
  have hover : ∀ socket state browser' history',
      listing.trace (scenario.world cancellable) listener (listing.enough packets) browser history =
          ((.ok (socket, state), browser'), history') → state.isFinished = true := by
    intro socket state browser' history' htrace
    obtain ⟨-, hfinished | hless⟩ := need_of_trace hrations hhears htrace
    · exact hfinished
    · have henough := need_initial_le listing hleft
      have hnone : state.need listing.settings.retryCount
          (packetsLeft entries history.socketCount history') = 0 := by omega
      exact isFinished_of_need hnone
  refine ⟨hover, run_of_trace_over fun here hhere => ?_,
    run_of_enough hrations hhears listing cancellable browser hleft, ?_⟩
  · exact hover here.1 here.2 _ _ (Prod.ext (Prod.ext hhere rfl) rfl)
  · intro limit
    obtain ⟨result, browser', since, hrun, hsince⟩ :=
      run_pays hrations hhears listing cancellable limit browser
    have hbudget : ∀ deed, since.deedCount deed ≤
        listing.initial.budget listing.settings.retryCount packets deed :=
      fun deed => Nat.le_trans (hsince deed) (budget_mono .start _ _ deed hleft)
    exact ⟨result, browser', since, hrun, pageCount_eq since ▸ hbudget .deliver, hbudget .send⟩

/-- A script by which two packets arrive, with two losses between them. -/
def unsteady : Script where
  sends := [none, some (.raised .transport "unreachable")]
  receives := [
    .ok (Response.header ++ [1, 2, 3, 4, 105, 135, 5, 6, 7, 8, 105, 135]),
    .error (.raised .transport "lost"),
    .ok (Response.header ++ [0, 0, 0, 0, 0, 0])]

/-- The bounds over that script, for a listener that takes a server off each page. -/
theorem run_bounded_unsteady :
    (Script.scenario [unsteady] .direct).Recites 0 unsteady.receives ∧
      unsteady.receives.countP Except.isOk = 2 ∧ (Listener.always [.pop]).Hears ∧
      (∀ socket state browser' history',
        trace ⟨.text "master:27011", [], { retryCount := 2 }⟩
            ((Script.scenario [unsteady] .direct).world true) (.always [.pop]) 10 {} [] =
          ((.ok (socket, state), browser'), history') → state.isFinished = true) ∧
      ∃ result browser', ∃ since : History,
        run ⟨.text "master:27011", [], { retryCount := 2 }⟩
            ((Script.scenario [unsteady] .direct).world true) (.always [.pop]) 10 {} [] =
          ((result, browser'), [] ++ since) ∧
        since.pageCount ≤ 2 ∧ since.deedCount .send ≤ 1 + 2 * (2 + 1) := by
  have hrecites : (Script.scenario [unsteady] .direct).Recites 0 unsteady.receives :=
    Script.recites [unsteady] .direct {} 0 0
  have hhears : (Listener.always [.pop]).Hears := Behaviour.hears_listener (by simp) _ 0
  obtain ⟨hover, -, -, hruns⟩ := run_bounded ⟨.text "master:27011", [], { retryCount := 2 }⟩
    (Script.scenario [unsteady] .direct) true (.always [.pop]) unsteady.receives 2 {} [] hhears
    hrecites rfl
  exact ⟨hrecites, rfl, hhears, hover, hruns 10⟩

end Listing

end ServerBrowser
