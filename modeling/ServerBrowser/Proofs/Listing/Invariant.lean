import ServerBrowser.Proofs.Lifted
import ServerBrowser.Proofs.Listener
import ServerBrowser.Proofs.Listing.Trace
import ServerBrowser.Proofs.Listing.Turn
import ServerBrowser.Proofs.Response.Format
import ServerBrowser.Scenario.Script

/-!
# ServerBrowser.Proofs.Listing.Invariant

What is true of every state that a listing can come to, in any world, if its listener leaves its
pages as they are (`Reachable.isSound`).  The phases depend on one another: a listing continues
after the last server of a page, and that server is there and is not the null address because the
page was decoded from a packet.

A reachable state also says what may leave its next step: no fault of the family, and no fault that
the listing makes itself, but only what its transport raises, and the refusal of a delay.

How many pages were handed back is counted apart from the state, by the listener itself
(`Listener.tallied`).
-/

namespace ServerBrowser

open Scenario

/-- Whether a listener leaves each page as it is that it hands back. -/
def Listener.KeepsPages (listener : Listener Play) : Prop :=
  ∀ page, Yields (listener page) fun answer => ∀ left, answer = .ok left → left = page

/-- The same listener, with a list of all pages that it has handed back. -/
def Listener.tallied {m : Type → Type} [Monad m] (listener : Listener m) :
    Listener (StateT (List (List ServerAddress)) m) := fun page => do
  match ← listener page with
  | .error fault => return .error fault
  | .ok left =>
    modify (· ++ [left])
    return .ok left

/-- Who attends to its pages keeps them. -/
theorem Listener.Attends.keepsPages {listener : Listener Play} (h : listener.Attends) :
    listener.KeepsPages := by
  intro page browser history left hleft
  obtain ⟨answer, browser', asides, hplay, hkeeps, -⟩ := h page browser history
  rw [hplay] at hleft
  exact hkeeps left hleft

namespace Listing

variable {S : Type} {listing : Listing} {world : Surroundings Play S} {listener : Listener Play}
  {socket : S} {state next : State} {handed handed' : List (List ServerAddress)}
  {browser browser' : Browser} {history history' : History}

/-! ## reachable states -/

/-- The states that steps lead to from the initial one, whatever happens in between, each with the
pages that the listener has handed back on the way. -/
inductive Reachable (listing : Listing) (world : Surroundings Play S) (listener : Listener Play) :
    State → List (List ServerAddress) → Prop
  | initial : Reachable listing world listener listing.initial []
  | step {socket : S} {state next : State} {handed handed' : List (List ServerAddress)}
    {browser browser' : Browser} {history history' : History}
    (before : Reachable listing world listener state handed)
    (taken : listing.step world.lift listener.tallied socket state handed browser history =
      (((.ok next, handed'), browser'), history')) :
    Reachable listing world listener next handed'

/-- What is true of a state, given the pages that were handed back. -/
structure Sound (listing : Listing) (state : State) (handed : List (List ServerAddress)) :
    Prop where
  retries : 0 ≤ state.retriesLeft ∧ state.retriesLeft ≤ listing.settings.retryCount
  pages : state.pagesDelivered = handed.length
  servers : state.serversDelivered = handed.flatten.length
  begun : state.phase = .start ∨ state.phase = .awaiting → handed = [] ∧ state.cursor = .null
  /-- A page to be delivered has servers unless it is the last one, and none of them is null. -/
  delivering : state.phase = .delivering →
    (state.page.servers ≠ [] ∨ state.page.isLast = true) ∧ Response.Listed state.page.servers
  /-- A listing continues after the last server of a page. -/
  continuing : state.phase = .continuing →
    state.page.isLast = false ∧ state.page.servers.getLast? = some state.cursor ∧
      state.cursor.IsRecord ∧ state.cursor ≠ .null ∧ handed ≠ []
  /-- There is a last fault exactly where a retry is spent. -/
  lost : state.phase = .continuing →
    (state.lastFault = none ↔ state.retriesLeft = listing.settings.retryCount) ∧
      ∀ fault, state.lastFault = some fault → fault.isTransport = true
  done : state.phase = .done → state.page.isLast = true
  failed : state.phase = .failed → ∃ fault, state.lastFault = some fault ∧ fault.inFamily = true

/-! ## what steps keep -/

theorem sound_initial (listing : Listing) : listing.Sound listing.initial [] where
  retries := ⟨Int.natCast_nonneg _, Int.le_refl _⟩
  pages := rfl
  servers := rfl
  begun _ := ⟨rfl, rfl⟩
  delivering := by simp [initial]
  continuing := by simp [initial]
  lost := by simp [initial]
  done := by simp [initial]
  failed := by simp [initial]

/-- A parsed page is one that may be delivered. -/
theorem deliverable_of_parse {packet : List UInt8} {page : Page}
    (h : Response.parse packet = .ok page) :
    (page.servers ≠ [] ∨ page.isLast = true) ∧ Response.Listed page.servers := by
  refine ⟨?_, Response.listed_of_parse h⟩
  cases hlast : page.isLast with
  | true => exact .inr rfl
  | false => exact .inl ((Response.parse_eq_ok h).2 hlast)

/-- A turn hands nothing to the listener, and leads to a sound state. -/
theorem Sound.turn (h : listing.Sound state handed)
    (hturn : listing.Turn world socket state (.ok next)) : listing.Sound next handed := by
  obtain ⟨hretries, hpages, hservers, hbegun, hdelivering, hcontinuing, hlost, hdone, hfailed⟩ := h
  cases hturn with
  | begun phase =>
      have hhanded : handed = [] := (hbegun (.inl phase)).1
      constructor <;> simp_all
  | decoded phase parsed =>
      have hpage := deliverable_of_parse parsed
      constructor <;> simp_all [State.withPage]
  | @retried fault phase lost left =>
      obtain ⟨hfault, -⟩ := hlost phase
      refine ⟨?_, hpages, hservers, by simp [phase], by simp [phase], fun _ => hcontinuing phase,
        ?_, by simp [phase], by simp [phase]⟩
      · show 0 ≤ state.retriesLeft - 1 ∧ state.retriesLeft - 1 ≤ listing.settings.retryCount
        omega
      · intro _
        refine ⟨iff_of_false (by simp) ?_, fun other hother => ?_⟩
        · show ¬ state.retriesLeft - 1 = listing.settings.retryCount
          omega
        · obtain rfl := Option.some.inj hother
          exact lost
  | @ended fault unfinished family =>
      exact ⟨hretries, hpages, hservers, by simp [State.endedBy], by simp [State.endedBy],
        by simp [State.endedBy], by simp [State.endedBy], by simp [State.endedBy],
        fun _ => ⟨fault, rfl, family⟩⟩
  | rested finished => exact ⟨hretries, hpages, hservers, hbegun, hdelivering, hcontinuing, hlost,
      hdone, hfailed⟩

/-- A page that was handed back as it is is counted, and the listing continues after it unless it
was the last one. -/
theorem Sound.delivered (h : listing.Sound state handed) (phase : state.phase = .delivering) :
    ∃ next, listing.delivered state state.page.servers = .ok next ∧
      listing.Sound next (handed ++ [state.page.servers]) := by
  obtain ⟨hretries, hpages, hservers, -, hdelivering, -, -, -, -⟩ := h
  obtain ⟨hne, hlisted⟩ := hdelivering phase
  have hcount : (handed ++ [state.page.servers]).flatten.length =
      handed.flatten.length + state.page.servers.length := by simp
  cases hlast : state.page.isLast with
  | true =>
      refine ⟨_, delivered_of_isLast _ hlast, ?_⟩
      refine ⟨hretries, ?_, ?_, by simp, by simp, by simp, by simp, fun _ => hlast, by simp⟩
      · simp [State.counted, hpages]
      · simp only [State.counted, hservers, hcount]
        omega
  | false =>
      have hne : state.page.servers ≠ [] := by simpa [hlast] using hne
      have hcursor := List.getLast?_eq_some_getLast hne
      obtain ⟨hrecord, hnull⟩ := hlisted _ (List.getLast_mem hne)
      refine ⟨_, delivered_of_getLast? hlast hcursor, ?_⟩
      refine ⟨⟨Int.natCast_nonneg _, Int.le_refl _⟩, ?_, ?_, by simp, by simp,
        fun _ => ⟨hlast, hcursor, hrecord, hnull, by simp⟩, by simp, by simp, by simp⟩
      · simp [State.counted, hpages]
      · simp only [State.counted, hservers, hcount]
        omega

/-- A listener that fails ends a listing. -/
theorem Sound.listenerFailed (h : listing.Sound state handed) (fault : Fault) :
    listing.Sound (state.endedBy (.listenerFailed fault)) handed where
  retries := h.retries
  pages := h.pages
  servers := h.servers
  begun := by simp [State.endedBy]
  delivering := by simp [State.endedBy]
  continuing := by simp [State.endedBy]
  lost := by simp [State.endedBy]
  done := by simp [State.endedBy]
  failed _ := ⟨_, rfl, rfl⟩

/-! ## steps of a tallied listing -/

/-- A listener that is tallied does what it does, and adds the page that it hands back. -/
theorem tallied_play {page : List ServerAddress} {answer : Except Fault (List ServerAddress)}
    (h : listener page browser history = ((answer, browser'), history')) :
    listener.tallied page handed browser history =
      (((answer, handed ++ answer.toOption.toList), browser'), history') := by
  rw [Listener.tallied, keep_bind (monadLift_play h handed)]
  cases answer with
  | error fault =>
      rw [Except.toOption, Option.toList, List.append_nil]
      rfl
  | ok left => rfl

/-- A tallied step is the step as it is. -/
theorem exists_step_tallied (listing : Listing) (world : Surroundings Play S)
    (listener : Listener Play) (socket : S) (state : State) (handed : List (List ServerAddress))
    (browser : Browser) (history : History) :
    ∃ result handed' browser' history',
      listing.step world listener socket state browser history =
        ((result, browser'), history') ∧
      listing.step world.lift listener.tallied socket state handed browser history =
        (((result, handed'), browser'), history') := by
  by_cases phase : state.phase = .delivering
  · obtain ⟨answer, browser', history', hlistens⟩ :=
      exists_play (listener state.page.servers) browser history
    exact ⟨_, _, _, _, step_deliver phase hlistens,
      step_deliver_play listing world socket phase (tallied_play hlistens)⟩
  · obtain ⟨result, browser', history', hstep⟩ :=
      exists_play (listing.step world listener socket state) browser history
    exact ⟨_, _, _, _, hstep, step_lift_play listing world socket phase hstep _ handed⟩

/-- A listing that goes on from a reachable state comes to a reachable state. -/
theorem Reachable.step_next (h : listing.Reachable world listener state handed)
    (hstep : listing.step world listener socket state browser history =
      ((.ok next, browser'), history')) :
    ∃ handed', listing.Reachable world listener next handed' := by
  obtain ⟨result, handed', _, _, hplain, htallied⟩ :=
    exists_step_tallied listing world listener socket state handed browser history
  cases hplain.symm.trans hstep
  exact ⟨handed', .step h htallied⟩

/-- **All that a listing goes through is reachable.** -/
theorem reachable_of_trace {count : Nat}
    (h : listing.trace world listener count browser history =
      ((.ok (socket, state), browser'), history')) :
    ∃ handed, listing.Reachable world listener state handed := by
  induction count generalizing state browser' history' with
  | zero =>
      obtain rfl := eq_initial_of_trace_zero h
      exact ⟨[], .initial⟩
  | succ count ih =>
      obtain ⟨previous, _, _, htrace, hstep⟩ := step_of_trace_succ h
      obtain ⟨handed, hreachable⟩ := ih htrace
      exact hreachable.step_next hstep

/-- **From a sound state a tallied step leads to a sound state,** or is left by what the transport
raises. -/
theorem Sound.step (h : listing.Sound state handed) (hkeeps : listener.KeepsPages)
    (world : Surroundings Play S) (socket : S) (browser : Browser) (history : History) :
    ∃ result handed' browser' history',
      listing.step world listener socket state browser history =
        ((result, browser'), history') ∧
      listing.step world.lift listener.tallied socket state handed browser history =
        (((result, handed'), browser'), history') ∧
      Scenario.Ends (fun next => listing.Sound next handed')
        (fun fault => fault.inFamily = false ∧ (world.transport.Raises socket fault ∨
          state.phase = .continuing ∧ world.Refuses listing.settings.retryDelay fault)) result := by
  by_cases phase : state.phase = .delivering
  · obtain ⟨answer, browser', history', hlistens⟩ :=
      exists_play (listener state.page.servers) browser history
    refine ⟨_, _, _, _, step_deliver phase hlistens,
      step_deliver_play listing world socket phase (tallied_play hlistens), ?_⟩
    cases answer with
    | error fault =>
        rw [Except.toOption, Option.toList, List.append_nil]
        exact h.listenerFailed fault
    | ok left =>
        have hleft : left = state.page.servers :=
          hkeeps state.page.servers browser history left (by rw [hlistens])
        obtain ⟨next, hdelivered, hnext⟩ := h.delivered phase
        rw [handedBack, settle_delivered, hleft, hdelivered]
        exact hnext
  · obtain ⟨result, browser', history', hstep⟩ :=
      exists_play (listing.step world listener socket state) browser history
    refine ⟨_, _, _, _, hstep, step_lift_play listing world socket phase hstep _ handed, ?_⟩
    have hturn := turn_step listing world listener socket phase browser history
    rw [hstep] at hturn
    cases result with
    | ok next => exact h.turn hturn
    | error fault =>
        cases hturn with
        | unwritten phase query family =>
            -- The cursor is the address of a record, which can be written.
            obtain ⟨-, -, hrecord, -⟩ := h.continuing phase
            obtain ⟨packet, hpacket, -⟩ :=
              (listing.query state.cursor).cursor?_toBytes hrecord rfl
            cases hpacket.symm.trans query
        | raised raises family => exact ⟨family, .inl raises⟩
        | refused phase refuses family => exact ⟨family, .inr ⟨phase, refuses⟩⟩

/-- **Every reachable state is sound** if the listener leaves its pages as they are.  A state that
is over is left as it is, without any effect.  No fault of the family leaves a step, and none that
the listing makes itself: only what the transport raises does, and what refuses the delay of a
listing that continues. -/
theorem Reachable.isSound (listing : Listing) (world : Surroundings Play S)
    (listener : Listener Play) (state : State) (handed : List (List ServerAddress))
    (h : listing.Reachable world listener state handed) (hkeeps : listener.KeepsPages) :
    listing.Sound state handed ∧
      (state.isFinished = true → ∀ socket browser history,
        listing.step world listener socket state browser history =
          ((.ok state, browser), history)) ∧
      ∀ socket browser history fault,
        (listing.step world listener socket state browser history).1.1 = .error fault →
          fault.inFamily = false ∧ (world.transport.Raises socket fault ∨
            state.phase = .continuing ∧ world.Refuses listing.settings.retryDelay fault) := by
  have hsound : listing.Sound state handed := by
    induction h with
    | initial => exact sound_initial listing
    | @step socket _ next _ _ browser _ history _ before taken ih =>
        obtain ⟨result, _, _, _, -, htallied, hends⟩ := ih.step hkeeps world socket browser history
        cases htallied.symm.trans taken
        exact hends
  refine ⟨hsound, fun hfinished socket browser history => step_of_finished hfinished, ?_⟩
  intro socket browser history fault hfault
  obtain ⟨result, _, _, _, hstep, -, hends⟩ := hsound.step hkeeps world socket browser history
  rw [hstep] at hfault
  obtain rfl : result = .error fault := hfault
  exact hends

/-- A socket that gives a page with one server, and nothing after it. -/
def onePage : Scenario :=
  Script.scenario [{ receives := [.ok (Response.header ++ [1, 2, 3, 4, 105, 135])] }] .direct

/-- The state in which a continuation was lost. -/
theorem Reachable.isSound_onePage :
    (Listener.always []).KeepsPages ∧
      ∃ state handed,
        Reachable ⟨.text "127.0.0.1:27011", [], .standard⟩ (onePage.world true) (.always []) state
          handed ∧
        state.phase = .continuing ∧ state.retriesLeft = 3 ∧
        Sound ⟨.text "127.0.0.1:27011", [], .standard⟩ state handed := by
  have hkeeps : (Listener.always []).KeepsPages :=
    (Behaviour.attends_listener (by simp) _ 0).keepsPages
  have htrace : ∃ state browser' history',
      trace ⟨.text "127.0.0.1:27011", [], .standard⟩ (onePage.world true) (.always []) 4 {} [] =
        ((.ok (0, state), browser'), history') ∧
      state.phase = .continuing ∧ state.retriesLeft = 3 :=
    ⟨_, _, _, rfl, rfl, rfl⟩
  obtain ⟨state, _, _, htrace, hphase, hretries⟩ := htrace
  obtain ⟨handed, hreachable⟩ := reachable_of_trace htrace
  exact ⟨hkeeps, state, handed, hreachable, hphase, hretries,
    (Reachable.isSound _ _ _ _ _ hreachable hkeeps).1⟩

end Listing

end ServerBrowser
