import ServerBrowser.Proofs.Listing.Traffic
import ServerBrowser.Proofs.Master

/-!
# ServerBrowser.Proofs.Listing.ExactlyOnce

A listing of an honest master over a lossy link.  The first exchange goes through, and of each
continuation no more attempts are lost than the settings allow retries; which ones are lost, and how
long the pages are, is open.  Then the listing ends well, and its listener was given every server of
the master once, in the order of the master (`run_exactly_once`).

The proof carries `OnTrack` from step to step: what was delivered is a front of the master's
servers, the cursor is the last of them, and a number of steps that is enough for the rest.
-/

namespace ServerBrowser

open Scenario

/-! ## lossy links -/

/-- Whether the attempt that is under way may be lost: it is not the first exchange, and no more
attempts were lost before it than leave a retry. -/
def Traffic.MayLose (retries : Nat) (traffic : Traffic) : Prop :=
  traffic.received ≠ [] ∧ traffic.attempts ≤ retries

/-- An honest master behind a link that loses some packets: sending or receiving may fail, as a
failure of the transport, where the attempt may be lost.  What arrives answers the last query. -/
structure Master.Serves (master : Master) (scenario : Scenario) (socket retries : Nat) : Prop where
  opens : ∀ history, scenario.connect history = .ok ()
  sendLost : ∀ history packet fault,
    scenario.send (history ++ [.sent socket packet]) = .error fault →
      fault.isTransport = true ∧
        (History.traffic socket (history ++ [.sent socket packet])).MayLose retries
  receiveLost : ∀ history fault,
    scenario.receive (history ++ [.awaited socket none]) = .error fault →
      fault.isTransport = true ∧ (History.traffic socket history).MayLose retries
  answers : ∀ history request reply,
    (History.traffic socket history).sent.getLast? = some request →
      scenario.receive (history ++ [.awaited socket none]) = .ok reply →
      master.Answers request reply

instance (retries : Nat) (traffic : Traffic) : Decidable (traffic.MayLose retries) :=
  inferInstanceAs (Decidable (_ ∧ _))

/-- A link that loses each packet that it may lose, before a master that puts one server on each
page. -/
def Master.worstLink (master : Master) (retries : Nat) : Scenario where
  create _ := .ok ()
  connect _ := .ok ()
  send history :=
    if (history.traffic 0).MayLose retries then .error (.raised .transport "lost") else .ok ()
  receive history := .ok (((history.traffic 0).sent.getLast?.map master.reply).getD [])
  isCancelled _ := false

theorem Master.serves_worstLink (master : Master) (retries : Nat) :
    master.Serves (master.worstLink retries) 0 retries where
  opens _ := rfl
  sendLost history packet fault h := by
    by_cases hmay : (History.traffic 0 (history ++ [.sent 0 packet])).MayLose retries
    · simp only [worstLink, if_pos hmay, Except.error.injEq] at h
      exact ⟨by rw [← h]; rfl, hmay⟩
    · simp only [worstLink, if_neg hmay, reduceCtorEq] at h
  receiveLost history fault h := by simp [worstLink] at h
  answers history request reply hrequest h := by
    simp only [worstLink, History.traffic_awaited, hrequest, Option.map_some, Option.getD_some,
      Except.ok.injEq] at h
    exact h ▸ master.answers_reply request

namespace Listing

/-! ## on track -/

/-- The most steps that one page takes: its retries, the attempt that goes through, and the
delivery. -/
def pageCost (listing : Listing) : Nat :=
  listing.settings.retryCount + 2

/-- The most steps that a listing of so many servers takes. -/
def wholeCost (listing : Listing) (servers : Nat) : Nat :=
  3 + servers * listing.pageCost

/-- What was delivered so far is a front of the master's servers. -/
structure Delivered (before : List ServerAddress) (state : State) (traffic : Traffic) : Prop where
  pages : traffic.pages.flatten = before
  count : state.serversDelivered = before.length

/-- That a listing is on its way to deliver each server once, in order, and will be there after
`need` steps at most. -/
def OnTrack (listing : Listing) (master : Master) (socket need : Nat) (state : State)
    (history : History) : Prop :=
  match state.phase with
  | .start =>
    Delivered [] state (history.traffic socket) ∧ (history.traffic socket).received = [] ∧
      listing.wholeCost master.servers.length ≤ need
  | .awaiting =>
    Delivered [] state (history.traffic socket) ∧ (history.traffic socket).received = [] ∧
      (∃ request, (history.traffic socket).sent.getLast? = some request ∧
        Query.cursor? request = some (Master.cursorAfter [])) ∧
      2 + master.servers.length * listing.pageCost ≤ need
  | .delivering =>
    ∃ before rest, master.servers = before ++ state.page.servers ++ rest ∧
      (if state.page.isLast then rest = [] else state.page.servers ≠ []) ∧
      Delivered before state (history.traffic socket) ∧ (history.traffic socket).received ≠ [] ∧
      (history.traffic socket).attempts = 0 ∧
      1 + (if state.page.isLast then 0 else (rest.length + 1) * listing.pageCost) ≤ need
  | .continuing =>
    ∃ before after, master.servers = before ++ after ∧ state.cursor = Master.cursorAfter before ∧
      Delivered before state (history.traffic socket) ∧ (history.traffic socket).received ≠ [] ∧
      state.retriesLeft = listing.settings.retryCount - (history.traffic socket).attempts ∧
      state.retriesLeft.toNat + 2 + after.length * listing.pageCost ≤ need
  | .done => Delivered master.servers state (history.traffic socket)
  | .failed => False

variable {listing : Listing} {master : Master} {scenario : Scenario} {listener : Listener Play}
  {socket need : Nat} {state : State} {browser browser' : Browser} {history history' : History}

/-- What stays delivered while the traffic gets no further page. -/
theorem Delivered.congr {before : List ServerAddress} {traffic traffic' : Traffic} {state' : State}
    (h : Delivered before state traffic) (hpages : traffic'.pages = traffic.pages)
    (hcount : state'.serversDelivered = state.serversDelivered) :
    Delivered before state' traffic' :=
  ⟨by rw [hpages, h.pages], by rw [hcount, h.count]⟩

/-- An honest answer is a page to be delivered. -/
theorem onTrack_withPage {before after : List ServerAddress} {request reply : List UInt8}
    (hanswers : master.Answers request reply) (hsplit : master.servers = before ++ after)
    (hcursor : Query.cursor? request = some (Master.cursorAfter before))
    (hdelivered : Delivered before state (history.traffic socket))
    (hreceived : (history.traffic socket).received ≠ [])
    (hattempts : (history.traffic socket).attempts = 0)
    (hneed : 1 + after.length * listing.pageCost ≤ need) :
    ∃ next, state.settle ((Response.parse reply).map state.withPage) = .ok next ∧
      OnTrack listing master socket need next history := by
  obtain ⟨run, rest, isLast, hrun, hempty, hend, hparse⟩ := hanswers.parse hsplit hcursor
  refine ⟨state.withPage ⟨run, isLast⟩, by rw [hparse]; rfl, ?_⟩
  refine ⟨before, rest, ?_, ?_, hdelivered.congr rfl rfl, hreceived, hattempts, ?_⟩
  · rw [hsplit, hrun, List.append_assoc]
    rfl
  · cases isLast with
    | true => exact hend rfl
    | false => exact fun hnil => Bool.false_ne_true (hempty hnil).2
  · cases isLast with
    | true =>
        show 1 + 0 ≤ need
        omega
    | false =>
        have hlength : rest.length + 1 ≤ after.length := by
          have hpos : 0 < run.length :=
            List.length_pos_iff.2 fun hnil => Bool.false_ne_true (hempty hnil).2
          rw [hrun, List.length_append]
          omega
        exact Nat.le_trans
          (Nat.add_le_add_left (Nat.mul_le_mul_right listing.pageCost hlength) 1) hneed

/-- A page that was handed over as it is counts as delivered. -/
theorem Delivered.counted {before left : List ServerAddress} {traffic traffic' : Traffic}
    {state' : State} (h : Delivered before state traffic)
    (hpages : traffic'.pages = traffic.pages ++ [left])
    (hcount : state'.serversDelivered = state.serversDelivered + left.length) :
    Delivered (before ++ left) state' traffic' where
  pages := by rw [hpages, List.flatten_append, h.pages, List.flatten_singleton]
  count := by rw [hcount, h.count, List.length_append]; push_cast; rfl

/-- An attempt that fails was one that may be lost; it was sent all the same. -/
theorem Exchanges.lost {cursor : ServerAddress} {fault : Fault} {retries : Nat}
    (h : listing.Exchanges scenario socket cursor history (.error fault) history')
    (hcursor : cursor.IsRecord) (hserves : master.Serves scenario socket retries) :
    fault.isTransport = true ∧ (history'.traffic socket).MayLose retries ∧
      ∃ packet, history'.traffic socket =
        ⟨(history.traffic socket).sent ++ [packet], (history.traffic socket).received,
          (history.traffic socket).pages, (history.traffic socket).attempts + 1⟩ := by
  obtain ⟨packet, -, ⟨_, ⟨⟩, rfl, hsend⟩ | hreceives⟩ := h.of_isRecord hcursor
  · obtain ⟨htransport, hmay⟩ := hserves.sendLost _ _ _ hsend
    exact ⟨htransport, hmay, packet, History.traffic_sent socket _ packet⟩
  · have htraffic := hreceives.traffic_error
    cases hreceives with
    | lost answer =>
        obtain ⟨htransport, hmay⟩ := hserves.receiveLost _ _ answer
        rw [htraffic]
        exact ⟨htransport, hmay, packet, History.traffic_sent socket _ packet⟩

/-- An attempt that goes through gets the answer of the master to the query that was sent. -/
theorem Exchanges.answered {cursor : ServerAddress} {reply : List UInt8} {retries : Nat}
    (h : listing.Exchanges scenario socket cursor history (.ok reply) history')
    (hcursor : cursor.IsRecord) (hserves : master.Serves scenario socket retries) :
    ∃ request, Query.cursor? request = some cursor ∧ master.Answers request reply ∧
      history'.traffic socket =
        ⟨(history.traffic socket).sent ++ [request], (history.traffic socket).received ++ [reply],
          (history.traffic socket).pages, 0⟩ := by
  obtain ⟨packet, hread, ⟨_, ⟨⟩, -, -⟩ | hreceives⟩ := h.of_isRecord hcursor
  have htraffic := hreceives.traffic
  rw [History.traffic_sent] at htraffic
  cases hreceives with
  | arrived answer =>
      refine ⟨packet, hread, hserves.answers _ packet _ ?_ answer, htraffic⟩
      rw [History.traffic_sent]
      exact List.getLast?_concat

/-- **A listing that is on track stays on track, and comes a step closer to its end.** -/
theorem OnTrack.move {result : Except Fault State}
    (h : OnTrack listing master socket (need + 1) state history)
    (hserves : master.Serves scenario socket listing.settings.retryCount)
    (hreads : listener.Reads socket) (hfinished : state.isFinished = false)
    (hmove : Move listing scenario false listener socket state browser history result browser'
      history') :
    ∃ next, result = .ok next ∧ OnTrack listing master socket need next history' := by
  cases hmove with
  | beginStopped phase set | pauseStopped phase set | proceedStopped phase clear set =>
      simp [stops] at set
  | beginFailed phase clear asks =>
      simp only [OnTrack, phase] at h
      obtain ⟨packet, -, -, hsend⟩ := asks.of_isRecord ServerAddress.isRecord_null
      obtain ⟨-, hmay, -⟩ := hserves.sendLost _ _ _ hsend
      rw [History.traffic_sent, History.traffic_append_quiet (History.quiet_look _)] at hmay
      exact absurd h.2.1 hmay
  | begun phase clear asks =>
      simp only [OnTrack, phase] at h
      obtain ⟨hdelivered, hreceived, hneed⟩ := h
      obtain ⟨packet, hread, rfl, -⟩ := asks.of_isRecord ServerAddress.isRecord_null
      have htraffic := History.traffic_sent socket (history ++ look false) packet
      rw [History.traffic_append_quiet (History.quiet_look _)] at htraffic
      refine ⟨_, rfl, ?_⟩
      simp only [OnTrack, htraffic]
      refine ⟨hdelivered.congr rfl rfl, hreceived, ⟨packet, List.getLast?_concat, hread⟩, ?_⟩
      rw [wholeCost] at hneed
      omega
  | awaitFailed phase receives =>
      simp only [OnTrack, phase] at h
      cases receives with
      | lost answer => exact absurd h.2.1 (hserves.receiveLost _ _ answer).2.1
  | awaited phase receives =>
      simp only [OnTrack, phase] at h
      obtain ⟨hdelivered, -, ⟨request, hsent, hcursor⟩, hneed⟩ := h
      have htraffic := receives.traffic
      rw [← History.traffic_append_quiet (quiet_decodeEvents state _)] at htraffic
      cases receives with
      | arrived answer =>
          have hsplit : master.servers = [] ++ master.servers := (List.nil_append _).symm
          exact onTrack_withPage (hserves.answers _ _ _ hsent answer) hsplit hcursor
            (hdelivered.congr (by rw [htraffic]) rfl) (by rw [htraffic]; simp) (by rw [htraffic])
            (by omega)
  | listenerFailed phase listens => simpa using (hreads.traffic listens).1
  | delivered phase listens =>
      simp only [OnTrack, phase] at h
      obtain ⟨before, rest, hsplit, hend, hdelivered, hreceived, hattempts, hneed⟩ := h
      obtain ⟨hleft, htraffic⟩ := hreads.traffic listens
      obtain rfl := Except.ok.inj hleft
      have hcounted : ∀ state' : State, state'.serversDelivered = _ →
          Delivered (before ++ state.page.servers) state' (history'.traffic socket) :=
        fun _ => hdelivered.counted (by rw [htraffic])
      cases hlast : state.page.isLast with
      | true =>
          refine ⟨_, by rw [delivered_of_isLast _ hlast]; rfl, ?_⟩
          rw [hlast, if_pos rfl] at hend
          rw [hend, List.append_nil] at hsplit
          simp only [OnTrack, hsplit]
          exact hcounted _ rfl
      | false =>
          rw [hlast, if_neg Bool.false_ne_true] at hend
          simp only [hlast, if_neg Bool.false_ne_true] at hneed
          obtain ⟨last, hgetLast⟩ : ∃ last, state.page.servers.getLast? = some last :=
            ⟨_, List.getLast?_eq_some_getLast hend⟩
          refine ⟨_, by rw [delivered_of_getLast? hlast hgetLast]; rfl, ?_⟩
          simp only [OnTrack]
          refine ⟨before ++ state.page.servers, rest, hsplit, ?_, hcounted _ rfl, ?_, ?_, ?_⟩
          · simp [Master.cursorAfter, hgetLast]
          · rw [htraffic]
            exact hreceived
          · simp [htraffic, hattempts]
          · rw [Nat.succ_mul, pageCost] at hneed
            rw [pageCost]
            omega
  | retried phase clear exchanges transport left =>
      simp only [OnTrack, phase] at h
      obtain ⟨before, after, hsplit, hcursor, hdelivered, hreceived, htries, hneed⟩ := h
      have hrecord := hcursor ▸ Master.isRecord_cursorAfter hsplit
      obtain ⟨-, -, packet, htraffic⟩ := exchanges.lost hrecord hserves
      rw [traffic_readied, ← History.traffic_logged socket _ (retryRecord state _)] at htraffic
      refine ⟨_, rfl, ?_⟩
      simp only [OnTrack, phase]
      refine ⟨before, after, hsplit, hcursor, hdelivered.congr (by rw [htraffic]) rfl, ?_, ?_, ?_⟩
      · rw [htraffic]
        exact hreceived
      · simp only [htraffic, htries]
        omega
      · omega
  | proceedFailed phase clear exchanges final =>
      simp only [OnTrack, phase] at h
      obtain ⟨before, after, hsplit, hcursor, -, -, htries, -⟩ := h
      have hrecord := hcursor ▸ Master.isRecord_cursorAfter hsplit
      obtain ⟨htransport, ⟨-, hmay⟩, packet, htraffic⟩ := exchanges.lost hrecord hserves
      rw [traffic_readied] at htraffic
      rw [htraffic] at hmay
      exact absurd ⟨htransport, by simp only at hmay; omega⟩ final
  | proceeded phase clear exchanges =>
      simp only [OnTrack, phase] at h
      obtain ⟨before, after, hsplit, hcursor, hdelivered, -, -, hneed⟩ := h
      have hrecord := hcursor ▸ Master.isRecord_cursorAfter hsplit
      obtain ⟨request, hread, hanswers, htraffic⟩ := exchanges.answered hrecord hserves
      rw [traffic_readied, ← History.traffic_append_quiet (quiet_decodeEvents state _)] at htraffic
      exact onTrack_withPage hanswers hsplit (hread.trans (by rw [hcursor]))
        (hdelivered.congr (by rw [htraffic]) rfl) (by rw [htraffic]; simp) (by rw [htraffic])
        (by omega)
  | rested phase => simp [phase] at hfinished

/-- A listing that is on track and over is done. -/
theorem OnTrack.of_isFinished (h : OnTrack listing master socket need state history)
    (hfinished : state.isFinished = true) :
    state.phase = .done ∧ Delivered master.servers state (history.traffic socket) := by
  cases phase : state.phase with
  | start | awaiting | delivering | continuing => simp [State.isFinished, phase] at hfinished
  | done => exact ⟨rfl, by simpa only [OnTrack, phase] using h⟩
  | failed => simp only [OnTrack, phase] at h

/-- A listing that is on track and needs no more steps is over. -/
theorem OnTrack.isFinished_of_zero (h : OnTrack listing master socket 0 state history) :
    state.isFinished = true := by
  cases phase : state.phase with
  | start =>
      simp only [OnTrack, phase] at h
      exact absurd h.2.2 (by rw [wholeCost]; omega)
  | awaiting =>
      simp only [OnTrack, phase] at h
      exact absurd h.2.2.2 (by omega)
  | delivering =>
      simp only [OnTrack, phase] at h
      obtain ⟨_, _, _, _, _, _, _, hneed⟩ := h
      exact absurd hneed (by omega)
  | continuing =>
      simp only [OnTrack, phase] at h
      obtain ⟨_, _, _, _, _, _, _, hneed⟩ := h
      exact absurd hneed (by omega)
  | done | failed => simp [State.isFinished, phase]

/-- A listing that is on track is done after the steps that it needs. -/
theorem OnTrack.steps (h : OnTrack listing master socket need state history)
    (hserves : master.Serves scenario socket listing.settings.retryCount)
    (hreads : listener.Reads socket) (browser : Browser) :
    ∃ final browser' history',
      listing.steps (scenario.world false) listener socket need state browser history =
        ((.ok final, browser'), history') ∧
      final.phase = .done ∧ Delivered master.servers final (history'.traffic socket) := by
  induction need generalizing state browser history with
  | zero =>
      have hfinished := h.isFinished_of_zero
      exact ⟨_, _, _, steps_of_finished hfinished, h.of_isFinished hfinished⟩
  | succ need ih =>
      cases hfinished : state.isFinished with
      | true => exact ⟨_, _, _, steps_of_finished hfinished, h.of_isFinished hfinished⟩
      | false =>
          obtain ⟨result, browser', history', hmove, hstep⟩ :=
            move_step listing scenario false listener socket state browser history
          obtain ⟨next, rfl, hnext⟩ := h.move hserves hreads hfinished hmove
          obtain ⟨final, browser'', history'', hsteps, hdone⟩ := ih hnext browser'
          exact ⟨_, _, _, (steps_of_ok hfinished hstep).trans hsteps, hdone⟩

/-! ## whole listings -/

/-- **An honest master is listed exactly once, in order,** over every link that loses no first
exchange and of no continuation more attempts than there are retries, whatever the lengths of the
pages. -/
theorem run_exactly_once (listing : Listing) (master : Master) (scenario : Scenario)
    (listener : Listener Play) (browser : Browser) (limit : Nat)
    (hserves : master.Serves scenario 0 listing.settings.retryCount) (hreads : listener.Reads 0)
    (hlimit : listing.wholeCost master.servers.length ≤ limit) :
    ∃ state browser' history',
      listing.run (scenario.world false) listener limit browser [] =
        ((.ok state, browser'), history') ∧
      state.phase = .done ∧
      (history'.traffic 0).pages.flatten = master.servers ∧
      state.serversDelivered = master.servers.length := by
  have htrack : OnTrack listing master 0 limit listing.initial (listing.opened []) := by
    simp only [OnTrack, initial, traffic_opened]
    exact ⟨⟨rfl, rfl⟩, rfl, hlimit⟩
  obtain ⟨state, browser', history', hsteps, hdone, hdelivered⟩ :=
    htrack.steps hserves hreads browser
  have houtcome : outcome state = .ok state := by
    rw [outcome, if_neg (by simp [hdone])]
  have hrun := listing.run_play scenario false listener [] (hserves.opens _) hsteps
  refine ⟨state, browser', _, hrun.trans (by rw [Except.bind, houtcome]), hdone, ?_,
    hdelivered.count⟩
  rw [History.traffic_append_quiet (quiet_closing _ _ _ _)]
  exact hdelivered.pages

/-- Two servers over a link that loses each continuation as often as it may. -/
theorem run_exactly_once_worstLink :
    ∃ state browser' history',
      run ⟨.text "master:27011", [], .standard⟩
          ((Master.pair.worstLink 4).world false)
          (.always []) 15 {} [] =
        ((.ok state, browser'), history') ∧
      state.phase = .done ∧
      (history'.traffic 0).pages.flatten = [⟨"1.2.3.4", 27015⟩, ⟨"5.6.7.8", 80⟩] ∧
      state.serversDelivered = 2 :=
  run_exactly_once _ Master.pair _ _ _ _ (Master.pair.serves_worstLink 4)
    (Listener.reads_always 0) (by decide)

end Listing

end ServerBrowser
