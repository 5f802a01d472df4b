import ServerBrowser.Proofs.Listing.Turn
import ServerBrowser.Scenario.Script

/-!
# ServerBrowser.Proofs.Listing.LastFault

What the last fault of a listing says once the listing is done.  An attempt that is lost leaves its
fault in the state.  The delivery of a page takes it out again, but not that of the last page: a
listing that is done has no last fault exactly if no attempt to get the last page was lost
(`lastFault_eq_none_iff`).

The proof carries `Recalls` along the trace.  Up to its last page a listing recalls the attempts
that were lost since the page before; all others were lost while fewer pages were delivered.
-/

namespace ServerBrowser.Listing

open Scenario

variable {S : Type} {listing : Listing} {world : Surroundings Play S} {listener : Listener Play}
  {socket : S} {state final : State} {browser browser' : Browser} {history history' : History}
  {count : Nat}

/-! ## lost attempts -/

/-- Whether the step after so many others loses an attempt that is to be made again, and which state
it leads to.  No other step goes from a continuation to a continuation. -/
def LosesAt (listing : Listing) (world : Surroundings Play S) (listener : Listener Play)
    (browser : Browser) (history : History) (taken : Nat) (next : State) : Prop :=
  ∃ socket previous browser₁ history₁ browser₂ history₂,
    listing.trace world listener taken browser history =
      ((.ok (socket, previous), browser₁), history₁) ∧
    listing.trace world listener (taken + 1) browser history =
      ((.ok (socket, next), browser₂), history₂) ∧
    previous.phase = .continuing ∧ next.phase = .continuing

/-- How many pages were delivered before the one that was asked for last. -/
def State.pagesBefore (state : State) : Int :=
  if state.phase = .done then state.pagesDelivered - 1 else state.pagesDelivered

/-- What the last fault of a state says about the attempts that were lost in the steps before. -/
structure Recalls (listing : Listing) (world : Surroundings Play S) (listener : Listener Play)
    (browser : Browser) (history : History) (count : Nat) (state : State) : Prop where
  bounded : ∀ taken < count, ∀ next, listing.LosesAt world listener browser history taken next →
    next.pagesDelivered ≤ state.pagesBefore
  recalled : state.phase ≠ .failed → (state.lastFault = none ↔
    ∀ taken < count, ∀ next, listing.LosesAt world listener browser history taken next →
      next.pagesDelivered < state.pagesBefore)

theorem recalls_initial : listing.Recalls world listener browser history 0 listing.initial where
  bounded taken htaken := absurd htaken (Nat.not_lt_zero taken)
  recalled _ := iff_of_true rfl fun taken htaken => absurd htaken (Nat.not_lt_zero taken)

/-! ## along the trace -/

section Trace

variable {next : State}

/-- What is said of the steps before, and of the step from a state to the next one if it loses an
attempt, is said of all steps so far. -/
theorem forall_losesAt_succ {holds : State → Prop}
    (h : listing.trace world listener count browser history =
      ((.ok (socket, state), browser'), history'))
    (hnext : ∃ browser'' history'', listing.trace world listener (count + 1) browser history =
      ((.ok (socket, next), browser''), history'')) :
    (∀ taken < count + 1, ∀ after, listing.LosesAt world listener browser history taken after →
        holds after) ↔
      (∀ taken < count, ∀ after, listing.LosesAt world listener browser history taken after →
        holds after) ∧
      (state.phase = .continuing → next.phase = .continuing → holds next) := by
  obtain ⟨browser'', history'', hnext⟩ := hnext
  constructor
  · intro hall
    refine ⟨fun taken htaken => hall taken (Nat.lt_succ_of_lt htaken), fun hphase hphase' => ?_⟩
    exact hall count (Nat.lt_succ_self count) next
      ⟨socket, state, _, _, _, _, h, hnext, hphase, hphase'⟩
  · rintro ⟨hbefore, hlast⟩ taken htaken after hloses
    obtain hlt | rfl := Nat.lt_succ_iff_lt_or_eq.1 htaken
    · exact hbefore taken hlt after hloses
    · obtain ⟨_, previous, _, _, _, _, hprevious, hafter, hphase, hphase'⟩ := hloses
      cases h.symm.trans hprevious
      cases hnext.symm.trans hafter
      exact hlast hphase hphase'

/-- A step that leaves the fault and the pages as they are recalls what was recalled. -/
theorem Recalls.same (h : listing.Recalls world listener browser history count state)
    (htrace : listing.trace world listener count browser history =
      ((.ok (socket, state), browser'), history'))
    (hnext : ∃ browser'' history'', listing.trace world listener (count + 1) browser history =
      ((.ok (socket, next), browser''), history''))
    (hphases : state.phase ≠ .continuing ∨ next.phase ≠ .continuing)
    (hpages : next.pagesBefore = state.pagesBefore)
    (hfault : next.phase ≠ .failed → state.phase ≠ .failed ∧ next.lastFault = state.lastFault) :
    listing.Recalls world listener browser history (count + 1) next where
  bounded := by
    rw [forall_losesAt_succ htrace hnext, hpages]
    exact ⟨h.bounded, fun hphase hphase' => by simp [hphase, hphase'] at hphases⟩
  recalled hfailed := by
    obtain ⟨hstate, hsame⟩ := hfault hfailed
    rw [forall_losesAt_succ htrace hnext, hpages, hsame, h.recalled hstate]
    refine ⟨fun hall => ⟨hall, fun hphase hphase' => ?_⟩, And.left⟩
    simp [hphase, hphase'] at hphases

/-- A turn is recalled: one that loses an attempt by its fault. -/
theorem Recalls.turn (h : listing.Recalls world listener browser history count state)
    (htrace : listing.trace world listener count browser history =
      ((.ok (socket, state), browser'), history'))
    (hnext : ∃ browser'' history'', listing.trace world listener (count + 1) browser history =
      ((.ok (socket, next), browser''), history''))
    (hturn : listing.Turn world socket state (.ok next)) :
    listing.Recalls world listener browser history (count + 1) next := by
  cases hturn with
  | begun phase =>
      exact h.same htrace hnext (.inl (by simp [phase])) (by simp [State.pagesBefore, phase])
        (by simp [phase])
  | decoded phase parsed =>
      refine h.same htrace hnext (.inr (by simp [State.withPage])) ?_ ?_ <;>
        obtain phase | phase := phase <;> simp [State.pagesBefore, State.withPage, phase]
  | @retried fault phase lost left =>
      have hpages : State.pagesBefore { state with
          retriesLeft := state.retriesLeft - 1, lastFault := some fault } = state.pagesBefore := rfl
      have hhere : state.pagesBefore = state.pagesDelivered := by simp [State.pagesBefore, phase]
      constructor
      · rw [forall_losesAt_succ htrace hnext, hpages]
        exact ⟨h.bounded, fun _ _ => by simp [hhere]⟩
      · intro _
        rw [forall_losesAt_succ htrace hnext, hpages, hhere]
        simp [phase]
  | ended unfinished family =>
      have hdone : state.phase ≠ .done := by
        intro phase
        simp [State.isFinished, phase] at unfinished
      exact h.same htrace hnext (.inr (by simp [State.endedBy]))
        (by simp [State.pagesBefore, State.endedBy, hdone]) (by simp [State.endedBy])
  | rested finished =>
      refine h.same htrace hnext (.inl ?_) rfl fun hfailed => ⟨hfailed, rfl⟩
      intro phase
      simp [State.isFinished, phase] at finished

/-- The delivery of a page leaves the fault where the page is the last one, and else takes it out
of the state. -/
theorem Recalls.handedBack {result : Except Fault (List ServerAddress)}
    (h : listing.Recalls world listener browser history count state)
    (htrace : listing.trace world listener count browser history =
      ((.ok (socket, state), browser'), history'))
    (hnext : ∃ browser'' history'', listing.trace world listener (count + 1) browser history =
      ((.ok (socket, next), browser''), history''))
    (phase : state.phase = .delivering)
    (hresult : state.settle (listing.handedBack state result) = .ok next) :
    listing.Recalls world listener browser history (count + 1) next := by
  have hhere : state.pagesBefore = state.pagesDelivered := by simp [State.pagesBefore, phase]
  have hphase : state.phase ≠ .continuing := by simp [phase]
  cases result with
  | error fault =>
      cases hresult
      exact h.same htrace hnext (.inl hphase) (by simp [State.pagesBefore, phase]) (by simp)
  | ok left =>
      rw [Listing.handedBack, settle_delivered] at hresult
      cases hlast : state.page.isLast with
      | true =>
          rw [delivered_of_isLast left hlast, Except.ok.injEq] at hresult
          subst hresult
          refine h.same htrace hnext (.inl hphase) ?_ ?_
          · simp [State.pagesBefore, State.counted, phase]
          · simp [State.counted, phase]
      | false =>
          cases hleft : left.getLast? with
          | none =>
              rw [List.getLast?_eq_none_iff] at hleft
              rw [hleft, delivered_nil hlast] at hresult
              cases hresult
          | some last =>
              rw [delivered_of_getLast? hlast hleft, Except.ok.injEq] at hresult
              have hpages : next.pagesBefore = state.pagesBefore + 1 := by
                rw [← hresult, hhere]
                simp [State.pagesBefore, State.counted]
              constructor
              · rw [forall_losesAt_succ htrace hnext, hpages]
                refine ⟨fun taken htaken after hloses => ?_,
                  fun hcontinues => absurd hcontinues hphase⟩
                have := h.bounded taken htaken after hloses
                omega
              · intro _
                rw [forall_losesAt_succ htrace hnext, hpages]
                refine iff_of_true (by rw [← hresult]) ⟨fun taken htaken after hloses => ?_,
                  fun hcontinues => absurd hcontinues hphase⟩
                have := h.bounded taken htaken after hloses
                omega

end Trace

/-- **Every state on a trace recalls the attempts that were lost.** -/
theorem recalls_trace (h : listing.trace world listener count browser history =
    ((.ok (socket, state), browser'), history')) :
    listing.Recalls world listener browser history count state := by
  induction count generalizing state browser' history' with
  | zero =>
      obtain rfl := eq_initial_of_trace_zero h
      exact recalls_initial
  | succ count ih =>
      obtain ⟨previous, browser₁, history₁, htrace, hstep⟩ := step_of_trace_succ h
      by_cases phase : previous.phase = .delivering
      · obtain ⟨result, browser₂, history₂, hlistens⟩ :=
          exists_play (listener previous.page.servers) browser₁ history₁
        have hsettled := (step_deliver phase hlistens).symm.trans hstep
        exact (ih htrace).handedBack htrace ⟨_, _, h⟩ phase (Prod.mk.inj (Prod.mk.inj hsettled).1).1
      · have hturn := turn_step listing world listener socket phase browser₁ history₁
        rw [hstep] at hturn
        exact (ih htrace).turn htrace ⟨_, _, h⟩ hturn

/-- A listing that is over stands where it is from then on. -/
theorem trace_of_finished (h : listing.trace world listener count browser history =
    ((.ok (socket, state), browser'), history')) (hfinished : state.isFinished = true)
    (more : Nat) :
    listing.trace world listener (count + more) browser history =
      ((.ok (socket, state), browser'), history') := by
  induction more with
  | zero => exact h
  | succ more ih => exact trace_succ_of_ok ih (step_of_finished hfinished)

/-- **A listing that is done has no last fault exactly if no attempt to get the last page was
lost**: all attempts that were lost were lost before the page before the last one was delivered. -/
theorem lastFault_eq_none_iff (listing : Listing) (world : Surroundings Play S)
    (listener : Listener Play) (browser : Browser) (history : History)
    (h : listing.trace world listener count browser history =
      ((.ok (socket, final), browser'), history')) (hdone : final.phase = .done) :
    final.lastFault = none ↔
      ∀ taken next, listing.LosesAt world listener browser history taken next →
        next.pagesDelivered + 1 < final.pagesDelivered := by
  have hfinished : final.isFinished = true := by simp [State.isFinished, hdone]
  have hpages : final.pagesBefore = final.pagesDelivered - 1 := if_pos hdone
  rw [(recalls_trace h).recalled (by simp [hdone]), hpages]
  constructor
  · intro hall taken next hloses
    by_cases htaken : taken < count
    · have := hall taken htaken next hloses
      omega
    · -- The listing was over by then.
      obtain ⟨more, rfl⟩ := Nat.exists_eq_add_of_le (Nat.not_lt.1 htaken)
      obtain ⟨_, previous, _, _, _, _, hprevious, -, phase, -⟩ := hloses
      cases (trace_of_finished h hfinished more).symm.trans hprevious
      cases hdone.symm.trans phase
  · intro hall taken _ next hloses
    have := hall taken next hloses
    omega

/-! ## a fault that stays -/

/-- A socket that gives a server, and loses a packet before the end. -/
def lostBeforeLast : Scenario :=
  Script.scenario [{
    receives := [
      .ok (Response.header ++ [1, 2, 3, 4, 105, 135]),
      .error (.raised .transport "lost"),
      .ok (Response.header ++ [0, 0, 0, 0, 0, 0])] }] .direct

/-- The criterion for a listing over that socket. -/
theorem lastFault_eq_none_iff_lostBeforeLast :
    ∃ final browser' history',
      trace ⟨.text "127.0.0.1:27011", [], .standard⟩ (lostBeforeLast.world false) (.always []) 6 {}
          [] = ((.ok (0, final), browser'), history') ∧
        final.phase = .done ∧
        (final.lastFault = none ↔
          ∀ taken next, LosesAt ⟨.text "127.0.0.1:27011", [], .standard⟩
            (lostBeforeLast.world false) (.always []) {} [] taken next →
              next.pagesDelivered + 1 < final.pagesDelivered) :=
  ⟨_, _, _, rfl, rfl, lastFault_eq_none_iff _ _ _ _ _ (rfl : trace _ _ _ 6 _ _ = _) rfl⟩

/-- The listing is done, and the fault of the lost packet is still there. -/
theorem run_lostBeforeLast :
    (run ⟨.text "127.0.0.1:27011", [], .standard⟩ (lostBeforeLast.world false) (.always []) 10 {}
      []).1.1.toOption.map (fun final => (final.phase, final.lastFault)) =
        some (.done, some (.raised .transport "lost")) := by
  decide +kernel

end ServerBrowser.Listing
