import ServerBrowser.Proofs.Listing.Allowance
import ServerBrowser.Proofs.Listing.Ending

/-!
# ServerBrowser.Proofs.Listing.Cancellation

How a listing heeds its cancel signal.  It sends only what is prepared for (`Passage.guarded`): right
after a look at the signal that has found it not to be set, and after one delay, unless the socket
was opened just now.  Once the signal is set it does no more than its allowance.

`Tracked` puts together what holds throughout a listing, and `run_heeds` says what that comes to for
a whole run and its end.
-/

namespace ServerBrowser

open Scenario

/-- Whether an event may happen between the opening of a socket and its end: no socket is opened
there or closed, and delays are left to the signal. -/
def Event.isWithin : Event → Bool
  | .opened .. | .closed _ | .slept _ => false
  | _ => true

namespace Listing

variable {listing : Listing} {scenario : Scenario} {listener : Listener Play} {socket : Nat}
  {past since more : History} {state next : State}

/-! ## looks before packets -/

/-- That a packet was sent on the socket, and nothing but calm has come after it. -/
def SentLast (socket : Nat) (since : History) : Prop :=
  ∃ front packet calm, since = front ++ .sent socket packet :: calm ∧ History.Calm calm

/-- Where a listing stands between its packets. -/
def Poised (socket : Nat) (since : History) : Phase → Prop
  | .start => ∃ front master timeout, since = front ++ [.opened socket master timeout]
  | .awaiting | .delivering | .continuing => SentLast socket since
  | .done | .failed => True

theorem SentLast.append (h : SentLast socket since) (hmore : more.Calm) :
    SentLast socket (since ++ more) := by
  obtain ⟨front, packet, calm, rfl, hcalm⟩ := h
  exact ⟨front, packet, calm ++ more, by simp, hcalm.append hmore⟩

theorem SentLast.poised_decoded (h : SentLast socket since) (state : State) (packet : List UInt8) :
    Poised socket since (state.decoded packet).phase := by
  rw [State.decoded]
  cases Response.parse packet with
  | ok page => exact h
  | error fault => trivial

theorem calm_asides {asides : History} (h : asides.Asides) : asides.Calm :=
  h.all

theorem calm_paged (page : List ServerAddress) {asides : History} (h : asides.Asides) :
    History.Calm (.paged page :: asides) := by
  have hpage : History.Calm [.paged page] := by simp [History.Calm, Event.isCalm]
  exact hpage.append (calm_asides h)

theorem calm_replied (socket : Nat) (reply : List UInt8) (records : List Log.Record) :
    History.Calm ([.awaited socket none, .received socket reply] ++ records.map .logged) := by
  refine History.Calm.append ?_ (History.calm_logged records)
  simp [History.Calm, Event.isCalm]

theorem calm_lost {packet : List UInt8} {fault : Fault} {tail : History}
    (h : scenario.Loses socket past packet fault tail) : tail.Calm := by
  cases h <;> simp [History.Calm, Event.isCalm]

/-- Calm events send nothing. -/
theorem unsent_calm (h : more.Calm) : ∀ event ∈ more, event.deed? ≠ some .send := by
  intro event hevent
  have hcalm := h event hevent
  cases event <;> simp_all [Event.isCalm, Event.deed?]

theorem unsent_preparation (listing : Listing) :
    ∀ event ∈ listing.preparation, event.deed? ≠ some .send := by
  simp [preparation, Event.deed?]

/-- The first packet is prepared for. -/
theorem guarded_first (packet : List UInt8)
    (h : scenario.Guarded listing.settings.retryDelay past since)
    (hopened : ∃ front master timeout, since = front ++ [.opened socket master timeout])
    (hclear : scenario.isCancelled (past ++ since ++ [.checked]) = false) :
    scenario.Guarded listing.settings.retryDelay past (since ++ [.checked, .sent socket packet]) ∧
      SentLast socket (since ++ [.checked, .sent socket packet]) := by
  have hprepared :
      History.Prepared listing.settings.retryDelay socket (since ++ [.checked]) := by
    obtain ⟨front, master, timeout, rfl⟩ := hopened
    rw [List.append_assoc]
    exact .first front master timeout
  rw [List.append_assoc] at hclear
  have hlooked : scenario.Guarded listing.settings.retryDelay past (since ++ [.checked]) :=
    h.append_unsent (by simp [Event.deed?])
  have hguarded := hlooked.sent hprepared hclear packet
  constructor
  · simpa using hguarded
  · exact ⟨since ++ [.checked], packet, [], by simp, by simp [History.Calm]⟩

/-- So is that of an attempt to go on. -/
theorem guarded_attempt {tail : History} (packet : List UInt8)
    (h : scenario.Guarded listing.settings.retryDelay past since)
    (hsent : SentLast socket since)
    (hclear : scenario.isCancelled (past ++ since ++ listing.preparation) = false)
    (htail : tail.Calm) :
    scenario.Guarded listing.settings.retryDelay past
        (since ++ (listing.preparation ++ .sent socket packet :: tail)) ∧
      SentLast socket (since ++ (listing.preparation ++ .sent socket packet :: tail)) := by
  have hprepared :
      History.Prepared listing.settings.retryDelay socket (since ++ listing.preparation) := by
    obtain ⟨front, before, calm, rfl, hcalm⟩ := hsent
    exact .next front before hcalm
  rw [List.append_assoc] at hclear
  have hguarded := ((h.append_unsent (unsent_preparation listing)).sent hprepared hclear
    packet).append_unsent (unsent_calm htail)
  constructor
  · simpa using hguarded
  · exact ⟨since ++ listing.preparation, packet, tail, by simp, htail⟩

/-- **A passage sends what is prepared for only.** -/
theorem Passage.guarded (h : Passage listing scenario listener socket state (past ++ since) next more)
    (hguarded : scenario.Guarded listing.settings.retryDelay past since)
    (hpoised : Poised socket since state.phase) :
    scenario.Guarded listing.settings.retryDelay past (since ++ more) ∧
      Poised socket (since ++ more) next.phase := by
  cases h with
  | beginStopped phase set => exact ⟨hguarded.append_unsent (by simp [Event.deed?]), trivial⟩
  | beginFailed phase clear transport =>
      rw [phase] at hpoised
      exact ⟨(guarded_first _ hguarded hpoised clear).1, trivial⟩
  | begun phase clear =>
      rw [phase] at hpoised
      exact guarded_first _ hguarded hpoised clear
  | awaitFailed phase transport =>
      exact ⟨hguarded.append_unsent (by simp [Event.deed?]), trivial⟩
  | @awaited reply records phase =>
      rw [phase] at hpoised
      have hcalm := calm_replied socket reply records
      exact ⟨hguarded.append_unsent (unsent_calm hcalm),
        (SentLast.append hpoised hcalm).poised_decoded state reply⟩
  | refused phase aside | finished phase last aside =>
      exact ⟨hguarded.append_unsent (unsent_calm (calm_paged _ aside)), trivial⟩
  | delivered phase more ends aside =>
      rw [phase] at hpoised
      have hcalm := calm_paged state.page.servers aside
      exact ⟨hguarded.append_unsent (unsent_calm hcalm), SentLast.append hpoised hcalm⟩
  | pauseStopped phase set => exact ⟨hguarded.append_unsent (by simp [Event.deed?]), trivial⟩
  | proceedStopped phase set =>
      exact ⟨hguarded.append_unsent (unsent_preparation listing), trivial⟩
  | retried packet phase clear transport left lost =>
      rw [phase] at hpoised
      obtain ⟨hall, hlast⟩ := guarded_attempt packet hguarded hpoised clear
        ((calm_lost lost).append (History.calm_logged [retryRecord state _]))
      refine ⟨hall, ?_⟩
      show Poised socket _ state.phase
      rw [phase]
      exact hlast
  | spent phase clear transport left lost =>
      rw [phase] at hpoised
      exact ⟨(guarded_attempt _ hguarded hpoised clear (calm_lost lost)).1, trivial⟩
  | @proceeded reply packet records phase clear =>
      rw [phase] at hpoised
      obtain ⟨hall, hlast⟩ :=
        guarded_attempt packet hguarded hpoised clear (calm_replied socket reply records)
      exact ⟨hall, hlast.poised_decoded state reply⟩

/-! ## what stands between a socket and its end -/

theorem within_asides {asides : History} (h : asides.Asides) :
    ∀ event ∈ asides, event.isWithin = true :=
  h.all

/-- A passage opens no socket and closes none, and leaves its delays to the signal. -/
theorem Passage.within (h : Passage listing scenario listener socket state past next more) :
    ∀ event ∈ more, event.isWithin = true := by
  cases h with
  | beginStopped | beginFailed | begun | awaitFailed | awaited | pauseStopped | proceedStopped
  | proceeded => simp [preparation, Event.isWithin]
  | refused _ aside | finished _ _ aside | delivered _ _ _ aside =>
      exact List.forall_mem_cons.2 ⟨rfl, within_asides aside⟩
  | retried _ _ _ _ _ lost | spent _ _ _ _ lost =>
      cases lost <;> simp [preparation, Event.isWithin]

/-- A listing whose signal is set at the beginning is stopped there. -/
theorem Passage.stopped (h : Passage listing scenario listener socket state past next more)
    (hlatches : scenario.Latches) (hset : scenario.isCancelled past = true)
    (hphase : state.phase = .start) : next.phase = .failed := by
  have hstill := hlatches past [.checked] hset
  cases h with
  | beginStopped => rfl
  | beginFailed phase clear | begun phase clear => cases hstill.symm.trans clear
  | awaitFailed phase | awaited _ phase | refused phase | finished phase | delivered phase
  | pauseStopped phase | proceedStopped phase | retried _ phase | spent phase
  | proceeded _ _ phase => cases hphase.symm.trans phase

/-! ## whole listings -/

/-- What holds throughout a listing that starts after `past`, when it has taken some steps to a
state and `inside` has happened since its socket was opened. -/
structure Tracked (listing : Listing) (scenario : Scenario) (listener : Listener Play)
    (past inside : History) (taken : Nat) (state : State) : Prop where
  sound : state.Sound
  halts : scenario.Halts (listing.opened past) inside Phase.start.allowance state.phase.allowance
  guarded : scenario.Guarded listing.settings.retryDelay past
    (listing.opening past.socketCount ++ inside)
  poised : Poised past.socketCount (listing.opening past.socketCount ++ inside) state.phase
  tally : Tally listing scenario listener past.socketCount past
    (listing.opening past.socketCount ++ inside) state
  within : ∀ event ∈ inside, event.isWithin = true
  /-- A listing whose signal is set when its socket is opened gets nowhere. -/
  stopped : scenario.isCancelled (listing.opened past) = true →
    state.phase = .start ∨ state.phase = .failed
  /-- Every step adds an event. -/
  counted : taken ≤ inside.length
  /-- No more than three steps are begun once the signal is set. -/
  prompt : ∀ before rest, inside = before ++ rest →
    scenario.isCancelled (listing.opened past ++ before) = true →
    taken + state.phase.stepsLeft ≤ before.length + 3

variable {inside : History} {taken : Nat}

theorem tracked_initial (listing : Listing) (scenario : Scenario) (listener : Listener Play)
    (past : History) :
    Tracked listing scenario listener past [] 0 listing.initial where
  sound := trivial
  halts := .of_le (fun _ => Nat.le_refl _) (allowance_le_most .start)
  guarded := by
    rw [List.append_nil]
    exact .of_unsent (by simp [opening, Event.deed?])
  poised := ⟨[.logged listing.startRecord], listing.master, listing.settings.timeout, rfl⟩
  tally := by
    rw [List.append_nil]
    rfl
  within := by simp
  stopped _ := .inl rfl
  counted := Nat.le_refl 0
  prompt before rest heq hset := by
    have hsteps : Phase.start.stepsLeft = 1 := rfl
    show 0 + Phase.start.stepsLeft ≤ before.length + 3
    omega

/-- **A passage keeps all of it.** -/
theorem Tracked.passage (h : Tracked listing scenario listener past inside taken state)
    (hlatches : scenario.Latches) (hfinished : state.isFinished = false)
    (hpassage : Passage listing scenario listener past.socketCount state (listing.opened past ++ inside) next
      more) :
    Tracked listing scenario listener past (inside ++ more) (taken + 1) next := by
  have hcounted := h.counted
  have hadded := List.length_pos_iff.2 hpassage.ne_nil
  have hsame : listing.opened past ++ inside =
      past ++ (listing.opening past.socketCount ++ inside) := by
    rw [opened_eq, List.append_assoc]
  have hfrom := hsame ▸ hpassage
  obtain ⟨hguarded, hpoised⟩ := hfrom.guarded h.guarded h.poised
  have htally := hfrom.tally h.tally
  rw [List.append_assoc] at hguarded hpoised htally
  refine {
    sound := hpassage.sound h.sound
    halts := h.halts.append hlatches (hpassage.halts hlatches)
    guarded := hguarded
    poised := hpoised
    tally := htally
    within := ?_
    stopped := ?_
    counted := ?_
    prompt := ?_ }
  · intro event hevent
    obtain hevent | hevent := List.mem_append.1 hevent
    · exact h.within event hevent
    · exact hpassage.within event hevent
  · intro hset
    obtain hstart | hfailed := h.stopped hset
    · exact .inr (hpassage.stopped hlatches (hlatches _ inside hset) hstart)
    · simp [State.isFinished, hfailed] at hfinished
  · rw [List.length_append]
    omega
  · intro before rest heq hset
    obtain ⟨middle, rfl, rfl⟩ | ⟨middle, rfl, rfl⟩ := List.append_eq_append_iff.1 heq
    -- The signal is set in this step, or at its beginning.
    · cases middle with
      | nil =>
          rw [List.append_nil] at hset ⊢
          have hbefore := h.prompt inside [] (List.append_nil inside).symm hset
          have hless := hpassage.stepsLeft_lt hlatches hset
          omega
      | cons event middle =>
          have hthree := stepsLeft_le next.phase
          simp only [List.length_append, List.length_cons]
          omega
    -- It was set before.
    · have hstill := hlatches _ middle hset
      rw [List.append_assoc] at hstill
      have hbefore := h.prompt before middle rfl hset
      have hless := hpassage.stepsLeft_lt hlatches hstill
      omega

/-- The steps of a listing are tracked to the end. -/
theorem steps_tracked (hattends : listener.Attends)
    (hlatches : scenario.Latches) (hloses : scenario.LosesOnly) (listing : Listing) (limit : Nat)
    (browser : Browser) (past : History) :
    ∃ result browser' inside taken final,
      listing.steps (scenario.world true) listener past.socketCount limit listing.initial browser
          (listing.opened past) = ((result, browser'), listing.opened past ++ inside) ∧
        Tracked listing scenario listener past inside taken final ∧
        (result = .ok final ∧ final.isFinished = true ∨
          result = .error .exhausted ∧ final.isFinished = false ∧ taken = limit) := by
  obtain ⟨result, browser', history', hsteps, hholds⟩ :=
    listing.steps_induction_counted scenario true listener past.socketCount
      (fun taken state _ history' => ∃ inside, history' = listing.opened past ++ inside ∧
        Tracked listing scenario listener past inside taken state)
      (fun _ _ _ => False)
      (by
        rintro taken state browser _ result browser' history' ⟨inside, rfl, htracked⟩ hfinished
          hmove
        obtain ⟨next, more, rfl, rfl, hpassage⟩ :=
          hmove.passage hattends hloses htracked.sound hfinished
        exact ⟨inside ++ more, List.append_assoc .., htracked.passage hlatches hfinished hpassage⟩)
      limit 0 browser ⟨[], (List.append_nil _).symm, tracked_initial listing scenario listener past⟩
  cases result with
  | ok final =>
      obtain ⟨hfinished, taken, inside, rfl, htracked⟩ := hholds
      exact ⟨_, _, inside, taken, final, hsteps, htracked, .inl ⟨rfl, hfinished⟩⟩
  | error fault =>
      obtain hnever | ⟨rfl, final, hfinished, inside, rfl, htracked⟩ := hholds
      · cases hnever
      · rw [Nat.zero_add] at htracked
        exact ⟨_, _, inside, limit, final, hsteps, htracked, .inr ⟨rfl, hfinished, rfl⟩⟩

/-- How a listing that starts after `past` ends, which all in all adds `more` to the history. -/
inductive Concludes (listing : Listing) (scenario : Scenario) (listener : Listener Play)
    (past more : History) : Except Fault Unit → Prop
  /-- The last page is in hand. -/
  | done {page : Page} (inHand : InHand (more.traffic past.socketCount) page)
    (last : page.isLast = true) : Concludes listing scenario listener past more (.ok ())
  /-- There is no socket. -/
  | refused {fault : Fault} (opening : more = listing.opening past.socketCount)
    (answer : scenario.connect (past ++ more) = .error fault) :
    Concludes listing scenario listener past more (.error fault)
  | failed {fault : Fault} (fails : listing.Fails scenario listener past.socketCount past more fault) :
    Concludes listing scenario listener past more (.error fault)

theorem heeds_opening (listing : Listing) (scenario : Scenario) (past : History) :
    scenario.Heeds listing.settings.retryDelay past (listing.opening past.socketCount) where
  halts := .of_le (fun _ => Nat.le_refl 0) (fun _ => Nat.zero_le _)
  guarded := .of_unsent (by simp [opening, Event.deed?])
  awake := by simp [opening]

/-- A listing that is tracked to its end has heeded the signal. -/
theorem Tracked.heeds (h : Tracked listing scenario listener past inside taken state)
    (hlatches : scenario.Latches) (result : Except Fault State) :
    scenario.Heeds listing.settings.retryDelay past
      (listing.opening past.socketCount ++ inside ++ listing.closing past.socketCount result) := by
  obtain ⟨records, hclosing⟩ := closing_eq listing past.socketCount result
  have hopening : scenario.Halts past (listing.opening past.socketCount) (fun _ => 0)
      Phase.start.allowance := .of_le (fun _ => Nat.le_refl 0) (fun _ => Nat.zero_le _)
  have hinside := h.halts
  rw [opened_eq] at hinside
  have hend : scenario.Halts (past ++ (listing.opening past.socketCount ++ inside))
      (listing.closing past.socketCount result) state.phase.allowance (fun _ => 0) := by
    refine .of_le ?_ (allowance_le_most _)
    intro deed
    rw [hclosing, History.deedCount_cons, deedCount_logged]
    simp [Event.deed?]
  refine {
    halts := (hopening.append hlatches hinside).append hlatches hend
    guarded := h.guarded.append_unsent ?_
    awake := ?_ }
  · rw [hclosing]
    simp [Event.deed?]
  · intro seconds hslept
    simp only [hclosing, List.mem_append, List.mem_cons] at hslept
    obtain (hopening | hinside) | hend | hend := hslept
    · simp [opening] at hopening
    · cases h.within _ hinside
    · cases hend
    · simp at hend

/-- In a listing that is done the signal was not set when its socket was opened. -/
theorem Tracked.opensUnset (h : Tracked listing scenario listener past inside taken state)
    (hdone : state.phase = .done) (result : Except Fault State) :
    scenario.OpensUnset past
      (listing.opening past.socketCount ++ inside ++ listing.closing past.socketCount result) := by
  have hunset : scenario.isCancelled (listing.opened past) = false := by
    cases hset : scenario.isCancelled (listing.opened past) with
    | false => rfl
    | true =>
        obtain hphase | hphase := h.stopped hset
        · cases hphase.symm.trans hdone
        · cases hphase.symm.trans hdone
  have hopening : scenario.OpensUnset past (listing.opening past.socketCount) := by
    intro before socket master timeout hmoment
    obtain ⟨-, ⟨⟩⟩ | ⟨between, rfl, hsocket⟩ := moment_cons hmoment
    obtain ⟨rfl, ⟨⟩⟩ | ⟨later, rfl, hnone⟩ := moment_cons hsocket
    · rwa [opened_eq] at hunset
    · simp at hnone
  have hinside : scenario.OpensUnset (past ++ listing.opening past.socketCount) inside := by
    refine opensUnset_of_forall ?_
    intro socket master timeout hopened
    cases h.within _ hopened
  refine (hopening.append hinside).append (opensUnset_of_forall ?_)
  cases result <;> simp [closing]

theorem isParting_closing (listing : Listing) (socket : Nat) (result : Except Fault State) :
    ∀ event ∈ listing.closing socket result, event.isParting = true := by
  cases result <;> simp [closing, Event.isParting]

/-- How a tracked listing that is over has ended. -/
theorem Tracked.concludes (h : Tracked listing scenario listener past inside taken state)
    (hfinished : state.isFinished = true)
    (result : Except Fault State) :
    Concludes listing scenario listener past
      (listing.opening past.socketCount ++ inside ++ listing.closing past.socketCount result)
      ((outcome state).map fun _ => ()) := by
  have hparting := isParting_closing listing past.socketCount result
  have htally := h.tally
  by_cases hfailed : state.phase = .failed
  · simp only [Tally, hfailed] at htally
    obtain ⟨fault, hfault, hfails⟩ := htally
    have houtcome : outcome state = .error fault := by simp [outcome, hfailed, hfault]
    rw [houtcome]
    exact .failed (hfails.append hparting)
  · have hdone : state.phase = .done := by simpa [State.isFinished, hfailed] using hfinished
    simp only [Tally, hdone] at htally
    have houtcome : outcome state = .ok state := by simp [outcome, hfailed]
    rw [houtcome]
    refine .done ?_ htally.2
    rw [History.traffic_append_quiet (quiet_of_isParting hparting)]
    exact htally.1

/-- A tracked listing that is not over was cut short. -/
theorem Tracked.cutShort (h : Tracked listing scenario listener past inside taken state)
    (hlatches : scenario.Latches) (hfinished : state.isFinished = false)
    (result : Except Fault State) :
    scenario.CutShort taken past
      (listing.opening past.socketCount ++ inside ++ listing.closing past.socketCount result) := by
  have hcounted := h.counted
  have hleft := stepsLeft_pos hfinished
  have hlater : scenario.CutShort taken (past ++ listing.opening past.socketCount)
      (inside ++ listing.closing past.socketCount result) := by
    constructor
    · rw [List.length_append]
      omega
    · intro before rest heq hset
      rw [← opened_eq] at hset
      obtain ⟨middle, rfl, -⟩ | ⟨middle, rfl, -⟩ := List.append_eq_append_iff.1 heq
      · rw [List.length_append]
        omega
      · have hprompt := h.prompt before middle rfl hset
        omega
  rw [List.append_assoc]
  exact hlater.after hlatches

/-- **A listing heeds its signal.**  However it ends, nothing is begun once the signal is set; a
listing that ends well was not set the signal before its socket was opened. -/
theorem run_heeds (hattends : listener.Attends)
    (hlatches : scenario.Latches) (hloses : scenario.LosesOnly) (listing : Listing) (limit : Nat)
    (browser : Browser) (past : History) :
    ∃ result browser' more,
      listing.run (scenario.world true) listener limit browser past =
        ((result, browser'), past ++ more) ∧
      scenario.Heeds listing.settings.retryDelay past more ∧
      (∀ final, result = .ok final → scenario.OpensUnset past more) ∧
      (Concludes listing scenario listener past more (result.map fun _ => ()) ∨
        result = .error .exhausted ∧ scenario.CutShort limit past more) := by
  cases hopen : scenario.connect (listing.opened past) with
  | error fault =>
      have hrun : listing.run (scenario.world true) listener limit browser past =
          ((.error fault, browser), listing.opened past) :=
        run_play_error listing scenario true listener hopen
      rw [opened_eq] at hrun hopen
      exact ⟨_, _, _, hrun, heeds_opening listing scenario past, by simp,
        .inl (.refused rfl hopen)⟩
  | ok =>
      obtain ⟨result, browser', inside, taken, final, hsteps, htracked, hend⟩ :=
        steps_tracked hattends hlatches hloses listing limit browser past
      have hrun := run_play listing scenario true listener past hopen hsteps
      rw [opened_eq, List.append_assoc, List.append_assoc, ← List.append_assoc _ inside] at hrun
      refine ⟨_, _, _, hrun, htracked.heeds hlatches result, ?_, ?_⟩
      · intro done hdone
        obtain ⟨rfl, hfinished⟩ | ⟨rfl, -⟩ := hend
        · obtain ⟨hphase, rfl⟩ := done_of_outcome hfinished hdone
          exact htracked.opensUnset hphase _
        · cases hdone
      · obtain ⟨rfl, hfinished⟩ | ⟨rfl, hfinished, rfl⟩ := hend
        · exact .inl (htracked.concludes hfinished _)
        · exact .inr ⟨rfl, htracked.cutShort hlatches hfinished _⟩

end Listing

end ServerBrowser
