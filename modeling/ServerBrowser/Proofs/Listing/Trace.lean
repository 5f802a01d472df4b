import ServerBrowser.Proofs.Listing.Run

/-!
# ServerBrowser.Proofs.Listing.Trace

A listing step by step, in any world.  `trace` says where a listing stands after a number of steps,
and a run is read off it:

* a run without a socket ends where the trace does (`run_of_trace_error`);
* a run over a socket takes the steps of the trace (`steps_of_trace`) and ends as they do
  (`run_of_trace`), with the outcome of the trace where that is over (`run_of_trace_over`);
* more steps than are needed make no difference (`run_mono`).
-/

namespace ServerBrowser.Listing

open Scenario

variable {S : Type} {listing : Listing} {world : Surroundings Play S}
  {listener first second : Listener Play} {socket : S} {state : State}
  {browser browser' browser'' : Browser} {history history' history'' : History}
  {count limit limit' : Nat} {fault : Fault}

/-- Where a listing stands after so many steps: its socket and its state, or the fault that has
ended it. -/
def trace (listing : Listing) (world : Surroundings Play S) (listener : Listener Play) :
    Nat → Play (Except Fault (S × State))
  | 0 => do
    world.log listing.startRecord
    match ← world.transport.connect listing.master listing.settings.timeout with
    | .error fault => return .error fault
    | .ok socket => return .ok (socket, listing.initial)
  | count + 1 => do
    match ← listing.trace world listener count with
    | .error fault => return .error fault
    | .ok (socket, state) => return (← listing.step world listener socket state).map (socket, ·)

/-! ## traces -/

/-- A listing opens a socket and stands at its beginning, or a fault has ended it. -/
theorem trace_zero (listing : Listing) (world : Surroundings Play S) (listener : Listener Play)
    (browser : Browser) (history : History) :
    ∃ result browser' history',
      (world.log listing.startRecord >>= fun _ =>
        world.transport.connect listing.master listing.settings.timeout) browser history =
          ((result, browser'), history') ∧
      listing.trace world listener 0 browser history =
        ((result.map (·, listing.initial), browser'), history') := by
  obtain ⟨⟨⟩, browser₁, history₁, hlog⟩ :=
    exists_play (world.log listing.startRecord) browser history
  obtain ⟨result, browser₂, history₂, hconnect⟩ :=
    exists_play (world.transport.connect listing.master listing.settings.timeout) browser₁ history₁
  refine ⟨result, browser₂, history₂, (play_bind hlog).trans hconnect, ?_⟩
  rw [trace]
  refine (play_bind hlog).trans ((play_bind hconnect).trans ?_)
  cases result <;> rfl

/-- A listing begins in its initial state. -/
theorem eq_initial_of_trace_zero
    (h : listing.trace world listener 0 browser history =
      ((.ok (socket, state), browser'), history')) : state = listing.initial := by
  obtain ⟨result, _, _, -, htrace⟩ := trace_zero listing world listener browser history
  cases result with
  | error fault => cases htrace.symm.trans h
  | ok => cases htrace.symm.trans h; rfl

/-- A trace goes on with one more step. -/
theorem trace_succ_of_ok {result : Except Fault State}
    (h : listing.trace world listener count browser history =
      ((.ok (socket, state), browser'), history'))
    (hstep : listing.step world listener socket state browser' history' =
      ((result, browser''), history'')) :
    listing.trace world listener (count + 1) browser history =
      ((result.map (socket, ·), browser''), history'') := by
  rw [trace]
  exact (play_bind h).trans (play_bind hstep)

/-- A fault that has ended a listing stays. -/
theorem trace_succ_of_error
    (h : listing.trace world listener count browser history =
      ((.error fault, browser'), history')) :
    listing.trace world listener (count + 1) browser history =
      ((.error fault, browser'), history') := by
  rw [trace]
  exact play_bind h

/-- Where a listing stands after one more step, it came by that step. -/
theorem step_of_trace_succ
    (h : listing.trace world listener (count + 1) browser history =
      ((.ok (socket, state), browser'), history')) :
    ∃ previous browser₁ history₁,
      listing.trace world listener count browser history =
        ((.ok (socket, previous), browser₁), history₁) ∧
      listing.step world listener socket previous browser₁ history₁ =
        ((.ok state, browser'), history') := by
  obtain ⟨result, browser₁, history₁, htrace⟩ :=
    exists_play (listing.trace world listener count) browser history
  cases result with
  | error fault => cases (trace_succ_of_error htrace).symm.trans h
  | ok here =>
      obtain ⟨socket', previous⟩ := here
      obtain ⟨result, browser₂, history₂, hstep⟩ :=
        exists_play (listing.step world listener socket' previous) browser₁ history₁
      have hnext := (trace_succ_of_ok htrace hstep).symm.trans h
      cases result with
      | error fault => cases hnext
      | ok next =>
          cases hnext
          exact ⟨previous, _, _, htrace, hstep⟩

/-- A listing that stands anywhere has opened a socket. -/
theorem trace_zero_of_trace
    (h : listing.trace world listener count browser history =
      ((.ok (socket, state), browser'), history')) :
    ∃ browser₀ history₀, listing.trace world listener 0 browser history =
      ((.ok (socket, listing.initial), browser₀), history₀) := by
  induction count generalizing state browser' history' with
  | zero =>
      obtain rfl := eq_initial_of_trace_zero h
      exact ⟨_, _, h⟩
  | succ count ih =>
      obtain ⟨previous, browser₁, history₁, htrace, -⟩ := step_of_trace_succ h
      exact ih htrace

/-! ## runs along their traces -/

/-- A listing that is over stays as it is. -/
theorem step_of_finished (h : state.isFinished = true) :
    listing.step world listener socket state browser history =
      ((.ok state, browser), history) := by
  cases phase : state.phase with
  | start | awaiting | delivering | continuing => simp [State.isFinished, phase] at h
  | done | failed =>
      have htransition : (listing.transition world listener socket state).run browser history =
          ((.ok state, browser), history) := by
        rw [transition, phase]
        rfl
      exact step_play _ htransition

/-- The steps of a listing lead along its trace. -/
theorem steps_of_trace
    (hopen : listing.trace world listener 0 browser history =
      ((.ok (socket, listing.initial), browser'), history'))
    (h : listing.trace world listener count browser history =
      ((.ok (socket, state), browser''), history''))
    (hfinished : state.isFinished = false) (limit : Nat) :
    listing.steps world listener socket (count + limit) listing.initial browser' history' =
      listing.steps world listener socket limit state browser'' history'' := by
  induction count generalizing state browser'' history'' limit with
  | zero =>
      cases hopen.symm.trans h
      rw [Nat.zero_add]
  | succ count ih =>
      obtain ⟨previous, browser₁, history₁, htrace, hstep⟩ := step_of_trace_succ h
      cases hprevious : previous.isFinished with
      | true =>
          cases (step_of_finished hprevious).symm.trans hstep
          rw [hprevious] at hfinished
          cases hfinished
      | false =>
          rw [Nat.add_assoc, Nat.add_comm 1, ih htrace hprevious, steps_of_ok hprevious hstep]

/-- A run without a socket ends with the fault of its trace. -/
theorem run_of_trace_error
    (h : listing.trace world listener 0 browser history = ((.error fault, browser'), history')) :
    listing.run world listener limit browser history = ((.error fault, browser'), history') := by
  obtain ⟨result, browser₁, history₁, hconnect, htrace⟩ :=
    trace_zero listing world listener browser history
  cases result with
  | ok => cases htrace.symm.trans h
  | error fault' =>
      cases htrace.symm.trans h
      rw [run, ← bind_assoc]
      exact play_bind hconnect

/-- Runs over the same socket that take the same steps are the same, whoever listens and however
many steps they are given. -/
theorem run_congr
    (hopen : listing.trace world first 0 browser history =
      ((.ok (socket, listing.initial), browser'), history'))
    (h : listing.steps world first socket limit listing.initial browser' history' =
      listing.steps world second socket limit' listing.initial browser' history') :
    listing.run world first limit browser history =
      listing.run world second limit' browser history := by
  obtain ⟨result, browser₁, history₁, hconnect, htrace⟩ :=
    trace_zero listing world first browser history
  cases result with
  | error fault => cases htrace.symm.trans hopen
  | ok =>
      cases htrace.symm.trans hopen
      rw [run, ← bind_assoc, run, ← bind_assoc]
      refine (play_bind hconnect).trans (Eq.trans ?_ (play_bind hconnect).symm)
      obtain ⟨result, browser₂, history₂, hsteps⟩ :=
        exists_play (listing.steps world first socket limit listing.initial) browser' history'
      have hrest : ∀ next : Except Fault State → Play (Except Fault State),
          (listing.steps world first socket limit listing.initial >>= next) browser' history' =
            (listing.steps world second socket limit' listing.initial >>= next) browser' history' :=
        fun next => (play_bind hsteps).trans (play_bind (h.symm.trans hsteps)).symm
      exact hrest _

/-- A run over a socket ends as its steps do. -/
theorem run_of_trace {result : Except Fault State}
    (hopen : listing.trace world listener 0 browser history =
      ((.ok (socket, listing.initial), browser'), history'))
    (hsteps : listing.steps world listener socket limit listing.initial browser' history' =
      ((result, browser''), history'')) :
    (listing.run world listener limit browser history).1.1 = result.bind outcome := by
  obtain ⟨result', browser₁, history₁, hconnect, htrace⟩ :=
    trace_zero listing world listener browser history
  cases result' with
  | error fault => cases htrace.symm.trans hopen
  | ok =>
      cases htrace.symm.trans hopen
      rw [run, ← bind_assoc]
      refine (congrArg (·.1.1) (play_bind hconnect)).trans ?_
      refine (congrArg (·.1.1) (play_bind hsteps)).trans ?_
      cases result <;> rfl

/-- The steps of a listing end where its trace does, by a fault or since the listing is over. -/
theorem steps_of_trace_over {result : Except Fault (S × State)}
    (hopen : listing.trace world listener 0 browser history =
      ((.ok (socket, listing.initial), browser'), history'))
    (h : listing.trace world listener count browser history = ((result, browser''), history''))
    (hover : ∀ here, result = .ok here → here.2.isFinished = true) (limit : Nat) :
    listing.steps world listener socket (count + limit) listing.initial browser' history' =
      ((result.map Prod.snd, browser''), history'') := by
  induction count generalizing result browser'' history'' limit with
  | zero =>
      cases hopen.symm.trans h
      cases hover _ rfl
  | succ count ih =>
      obtain ⟨previous, browser₁, history₁, htrace⟩ :=
        exists_play (listing.trace world listener count) browser history
      rw [Nat.add_assoc, Nat.add_comm 1]
      cases previous with
      | error fault =>
          cases (trace_succ_of_error htrace).symm.trans h
          exact ih htrace (by simp) (limit + 1)
      | ok here =>
          obtain ⟨socket', state⟩ := here
          obtain ⟨stepped, browser₂, history₂, hstep⟩ :=
            exists_play (listing.step world listener socket' state) browser₁ history₁
          cases (trace_succ_of_ok htrace hstep).symm.trans h
          cases hfinished : state.isFinished with
          | true =>
              cases (step_of_finished hfinished).symm.trans hstep
              exact ih htrace (by simpa using hfinished) (limit + 1)
          | false =>
              obtain ⟨_, _, hzero⟩ := trace_zero_of_trace htrace
              cases hzero.symm.trans hopen
              rw [steps_of_trace hopen htrace hfinished]
              cases stepped with
              | error fault => exact steps_of_error hfinished hstep
              | ok next => rw [steps_of_ok hfinished hstep, steps_of_finished (hover _ rfl)]; rfl

/-- Whatever ends a trace before it is opened stays. -/
theorem trace_of_trace_zero_error
    (h : listing.trace world listener 0 browser history = ((.error fault, browser'), history')) :
    ∀ count, listing.trace world listener count browser history =
      ((.error fault, browser'), history') := by
  intro count
  induction count with
  | zero => exact h
  | succ count ih => exact trace_succ_of_error ih

/-- **A run ends as its trace does,** where that is over: with the outcome of the state it has come
to, or with the fault that has left a step. -/
theorem run_of_trace_over
    (hover : ∀ here, (listing.trace world listener limit browser history).1.1 = .ok here →
      here.2.isFinished = true) :
    (listing.run world listener limit browser history).1.1 =
      (listing.trace world listener limit browser history).1.1.bind fun here =>
        outcome here.2 := by
  obtain ⟨opened, browser₁, history₁, -, hzero⟩ :=
    trace_zero listing world listener browser history
  cases opened with
  | error fault => rw [run_of_trace_error hzero, trace_of_trace_zero_error hzero]; rfl
  | ok socket =>
      obtain ⟨result, browser₂, history₂, htrace⟩ :=
        exists_play (listing.trace world listener limit) browser history
      rw [htrace] at hover ⊢
      have hsteps := steps_of_trace_over hzero htrace hover 0
      rw [Nat.add_zero] at hsteps
      rw [run_of_trace hzero hsteps]
      cases result <;> rfl

/-- Steps that are not used up are the same with more to take. -/
theorem steps_mono {result : Except Fault State} (more : Nat)
    (h : listing.steps world listener socket limit state browser history =
      ((result, browser'), history')) (hresult : result ≠ .error .exhausted) :
    listing.steps world listener socket (limit + more) state browser history =
      ((result, browser'), history') := by
  induction limit generalizing state browser history with
  | zero =>
      cases hfinished : state.isFinished with
      | true =>
          rw [steps_of_finished hfinished] at h ⊢
          exact h
      | false =>
          cases (steps_zero hfinished).symm.trans h
          exact absurd rfl hresult
  | succ limit ih =>
      cases hfinished : state.isFinished with
      | true =>
          rw [steps_of_finished hfinished] at h ⊢
          exact h
      | false =>
          obtain ⟨result', browser₁, history₁, hstep⟩ :=
            exists_play (listing.step world listener socket state) browser history
          rw [Nat.add_right_comm]
          cases result' with
          | error fault =>
              rw [steps_of_error hfinished hstep] at h ⊢
              exact h
          | ok next =>
              rw [steps_of_ok hfinished hstep] at h ⊢
              exact ih h

/-- A run whose steps are not used up is the same with more to take. -/
theorem run_mono {result : Except Fault State} (more : Nat)
    (h : listing.run world listener limit browser history = ((result, browser'), history'))
    (hresult : result ≠ .error .exhausted) :
    listing.run world listener (limit + more) browser history =
      ((result, browser'), history') := by
  obtain ⟨opened, browser₁, history₁, -, htrace⟩ :=
    trace_zero listing world listener browser history
  cases opened with
  | error fault => rw [run_of_trace_error htrace] at h ⊢; exact h
  | ok socket =>
      obtain ⟨result', browser₂, history₂, hsteps⟩ :=
        exists_play (listing.steps world listener socket limit listing.initial) browser₁ history₁
      have houtcome := run_of_trace htrace hsteps
      rw [h] at houtcome
      have hresult' : result' ≠ .error .exhausted := by
        rintro rfl
        exact hresult houtcome
      rw [← h]
      exact run_congr htrace ((steps_mono more hsteps hresult').trans hsteps.symm)

end ServerBrowser.Listing
