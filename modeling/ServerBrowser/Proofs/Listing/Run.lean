import ServerBrowser.Proofs.Listing.Move

/-!
# ServerBrowser.Proofs.Listing.Run

From steps to whole listings.  The equations of `steps` hold in every world; `steps_induction` says
once what every later proof about a run uses: what each move keeps holds when the steps are over,
whether the listing is finished, the steps are used up or a fault has left a step.  Where it matters
how many steps there were, `steps_induction_counted` says it.
-/

namespace ServerBrowser.Listing

open Scenario

/-! ## steps in any world -/

section Steps

variable {S : Type} {listing : Listing} {world : Surroundings Play S} {listener : Listener Play}
  {socket : S} {state next : State} {browser browser' : Browser} {history history' : History}
  {limit : Nat}

/-- Nothing is done once a listing is over. -/
theorem steps_of_finished (h : state.isFinished = true) :
    listing.steps world listener socket limit state browser history =
      ((.ok state, browser), history) := by
  cases limit <;> (rw [steps, if_pos h]; rfl)

/-- A listing that is not over stops where the steps are used up. -/
theorem steps_zero (h : state.isFinished = false) :
    listing.steps world listener socket 0 state browser history =
      ((.error .exhausted, browser), history) := by
  rw [steps, if_neg (by simp [h])]
  rfl

/-- A listing goes on from the state that a step gives. -/
theorem steps_of_ok (h : state.isFinished = false)
    (hstep : listing.step world listener socket state browser history =
      ((.ok next, browser'), history')) :
    listing.steps world listener socket (limit + 1) state browser history =
      listing.steps world listener socket limit next browser' history' := by
  rw [steps, if_neg (by simp [h])]
  exact play_bind hstep

/-- A fault that leaves a step ends the listing. -/
theorem steps_of_error {fault : Fault} (h : state.isFinished = false)
    (hstep : listing.step world listener socket state browser history =
      ((.error fault, browser'), history')) :
    listing.steps world listener socket (limit + 1) state browser history =
      ((.error fault, browser'), history') := by
  rw [steps, if_neg (by simp [h])]
  exact play_bind hstep

end Steps

/-! ## steps in a scenario -/

section Scenario

variable (listing : Listing) (scenario : Scenario) (cancellable : Bool) (listener : Listener Play)
  (socket : Nat)

/-- What holds of a result: `kept` of a state, `left` of a fault. -/
def Holds (kept : State → Browser → History → Prop) (left : Fault → Browser → History → Prop) :
    Except Fault State → Browser → History → Prop
  | .ok state => kept state
  | .error fault => left fault

/-- A fault ends a listing, or leaves its step. -/
theorem holds_afterFault {kept : State → Browser → History → Prop}
    {left : Fault → Browser → History → Prop} {state : State} {fault : Fault} {browser : Browser}
    {history : History} (hkept : kept (state.endedBy fault) browser history)
    (hleft : left fault browser history) :
    Holds kept left (state.afterFault fault) browser history := by
  cases hfamily : fault.inFamily with
  | true =>
      rw [State.afterFault, if_pos hfamily]
      exact hkept
  | false =>
      rw [State.afterFault, if_neg (by simp [hfamily])]
      exact hleft

/-- **Induction over a run, with its steps counted.**  What each move from an unfinished state keeps
holds in the end: of the finished state, of the state where all steps were taken, or of the fault
that left a step. -/
theorem steps_induction_counted (kept : Nat → State → Browser → History → Prop)
    (left : Fault → Browser → History → Prop)
    (keep : ∀ {taken state browser history result browser' history'},
      kept taken state browser history → state.isFinished = false →
      Move listing scenario cancellable listener socket state browser history result browser'
        history' →
      Holds (kept (taken + 1)) left result browser' history')
    (limit taken : Nat) {state : State} (browser : Browser) {history : History}
    (h : kept taken state browser history) :
    ∃ result browser' history',
      listing.steps (scenario.world cancellable) listener socket limit state browser history =
        ((result, browser'), history') ∧
      Holds (fun final browser' history' => final.isFinished = true ∧
          ∃ taken', kept taken' final browser' history')
        (fun fault browser' history' => left fault browser' history' ∨
          fault = .exhausted ∧ ∃ final, final.isFinished = false ∧
            kept (taken + limit) final browser' history') result browser' history' := by
  induction limit generalizing taken state browser history with
  | zero =>
      cases hfinished : state.isFinished with
      | true => exact ⟨_, _, _, steps_of_finished hfinished, hfinished, taken, h⟩
      | false => exact ⟨_, _, _, steps_zero hfinished, .inr ⟨rfl, state, hfinished, h⟩⟩
  | succ limit ih =>
      cases hfinished : state.isFinished with
      | true => exact ⟨_, _, _, steps_of_finished hfinished, hfinished, taken, h⟩
      | false =>
          obtain ⟨result, browser', history', hmove, hstep⟩ :=
            move_step listing scenario cancellable listener socket state browser history
          have hkept := keep h hfinished hmove
          cases result with
          | ok next =>
              obtain ⟨result, browser'', history'', hsteps, hholds⟩ := ih (taken + 1) browser' hkept
              rw [Nat.add_assoc, Nat.add_comm 1] at hholds
              exact ⟨_, _, _, (steps_of_ok hfinished hstep).trans hsteps, hholds⟩
          | error fault => exact ⟨_, _, _, steps_of_error hfinished hstep, .inl hkept⟩

/-- **Induction over a run.** -/
theorem steps_induction (kept : State → Browser → History → Prop)
    (left : Fault → Browser → History → Prop)
    (keep : ∀ {state browser history result browser' history'}, kept state browser history →
      state.isFinished = false →
      Move listing scenario cancellable listener socket state browser history result browser'
        history' →
      Holds kept left result browser' history')
    (limit : Nat) {state : State} (browser : Browser) {history : History}
    (h : kept state browser history) :
    ∃ result browser' history',
      listing.steps (scenario.world cancellable) listener socket limit state browser history =
        ((result, browser'), history') ∧
      Holds (fun final browser' history' => final.isFinished = true ∧ kept final browser' history')
        (fun fault browser' history' => left fault browser' history' ∨
          fault = .exhausted ∧ ∃ final, kept final browser' history') result browser' history' := by
  obtain ⟨result, browser', history', hsteps, hholds⟩ :=
    steps_induction_counted listing scenario cancellable listener socket (fun _ => kept) left keep
      limit 0 browser h
  refine ⟨result, browser', history', hsteps, ?_⟩
  cases result with
  | ok final =>
      obtain ⟨hfinished, -, hkept⟩ := hholds
      exact ⟨hfinished, hkept⟩
  | error fault =>
      obtain hleft | ⟨hfault, final, -, hkept⟩ := hholds
      · exact .inl hleft
      · exact .inr ⟨hfault, final, hkept⟩

/-- A fault that leaves the steps of a listing is none of the family: one of the family ends the
listing. -/
theorem inFamily_of_steps {limit : Nat} {state : State} {browser browser' : Browser}
    {history history' : History} {fault : Fault}
    (h : listing.steps (scenario.world cancellable) listener socket limit state browser history =
      ((.error fault, browser'), history')) : fault.inFamily = false := by
  obtain ⟨result, browser'', history'', hsteps, hholds⟩ :=
    steps_induction listing scenario cancellable listener socket (fun _ _ _ => True)
      (fun fault _ _ => fault.inFamily = false)
      (by
        intro state browser history result browser' history' _ _ hmove
        cases result with
        | ok next => trivial
        | error fault => exact hmove.inFamily_of_error rfl)
      limit browser trivial
  cases hsteps.symm.trans h
  obtain hleft | ⟨rfl, -⟩ := hholds
  · exact hleft
  · rfl

/-! ## runs -/

/-- A finished listing that does not end with a fault is done. -/
theorem done_of_outcome {final state : State} (hfinished : final.isFinished = true)
    (h : outcome final = .ok state) : state.phase = .done ∧ final = state := by
  by_cases hfailed : final.phase = .failed
  · simp [outcome, hfailed] at h
  · rw [outcome, if_neg hfailed, Except.ok.injEq] at h
    subst h
    exact ⟨by simpa [State.isFinished, hfailed] using hfinished, rfl⟩

/-- What the log says at the beginning of a listing. -/
def startRecord : Log.Record :=
  record Log.info
    s!"Querying {listing.master.display} with {listing.filters.length} filter(s)"

/-- The history in which a listing takes its first step, over the socket it has asked for. -/
def opened (history : History) : History :=
  history ++ [.logged listing.startRecord] ++
    [.opened history.socketCount listing.master listing.settings.timeout]

/-- What a run leaves in the history after its steps. -/
def closing (socket : Nat) : Except Fault State → History
  | .ok state => [.closed socket, .logged (listing.endRecord state)]
  | .error _ => [.closed socket]

/-- After its steps a run closes its socket, and then has something to say at most. -/
theorem closing_eq (socket : Nat) (result : Except Fault State) :
    ∃ records : List Log.Record,
      listing.closing socket result = .closed socket :: records.map .logged := by
  cases result with
  | ok state => exact ⟨[listing.endRecord state], rfl⟩
  | error fault => exact ⟨[], rfl⟩

/-- A listing asks the world for a socket after its first words. -/
theorem connect_play (browser : Browser) (history : History) :
    ((scenario.world cancellable).transport.connect listing.master listing.settings.timeout)
        browser (history ++ [.logged listing.startRecord]) =
      (((scenario.connect (listing.opened history)).map fun _ => history.socketCount, browser),
        listing.opened history) := by
  have hcount : History.socketCount (history ++ [.logged listing.startRecord]) =
      history.socketCount := by
    simp [History.socketCount]
  show (((scenario.connect (history ++ [.logged listing.startRecord] ++
      [.opened (History.socketCount (history ++ [.logged listing.startRecord])) listing.master
        listing.settings.timeout])).map fun _ =>
          History.socketCount (history ++ [.logged listing.startRecord]), browser),
    history ++ [.logged listing.startRecord] ++
      [.opened (History.socketCount (history ++ [.logged listing.startRecord])) listing.master
        listing.settings.timeout]) = _
  rw [hcount]
  rfl

/-- A run without a socket ends with the fault of connecting. -/
theorem run_play_error {limit : Nat} {browser : Browser} {history : History} {fault : Fault}
    (hopen : scenario.connect (listing.opened history) = .error fault) :
    listing.run (scenario.world cancellable) listener limit browser history =
      ((.error fault, browser), listing.opened history) := by
  have hconnect := connect_play listing scenario cancellable browser history
  rw [hopen] at hconnect
  rw [run]
  exact (play_bind (log_play listing.startRecord)).trans (play_bind hconnect)

/-- A run over a socket that opens is its steps; then the socket is closed. -/
theorem run_play {limit : Nat} {browser browser' : Browser} (history : History)
    {history' : History} {result : Except Fault State}
    (hopen : scenario.connect (listing.opened history) = .ok ())
    (hsteps : listing.steps (scenario.world cancellable) listener history.socketCount limit
      listing.initial browser (listing.opened history) = ((result, browser'), history')) :
    listing.run (scenario.world cancellable) listener limit browser history =
      ((result.bind outcome, browser'),
        history' ++ listing.closing history.socketCount result) := by
  have hconnect := connect_play listing scenario cancellable browser history
  rw [hopen] at hconnect
  rw [run]
  refine (play_bind (log_play listing.startRecord)).trans ((play_bind hconnect).trans ?_)
  refine (play_bind hsteps).trans ?_
  cases result with
  | error fault => rfl
  | ok state =>
      show ((outcome state, browser'),
        history' ++ [.closed history.socketCount] ++ [.logged (listing.endRecord state)]) = _
      rw [List.append_assoc]
      rfl

end Scenario

end ServerBrowser.Listing
