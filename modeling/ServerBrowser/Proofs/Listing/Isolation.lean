import ServerBrowser.Proofs.Listing.Trace
import ServerBrowser.Proofs.Master
import ServerBrowser.Scenario.Script

/-!
# ServerBrowser.Proofs.Listing.Isolation

How far a listing depends on what its listener does to the pages it is handed.  A listing goes on
with the list that the listener leaves: it counts the servers of that list and continues from the
last of them.  So two listeners that differ only in what they do to the list are told apart exactly
where they leave lists of another length or, unless the page is the last one, with another last
server (`alike_iff`).
-/

namespace ServerBrowser

open Scenario

/-! ## listeners that differ in what they leave -/

/-- Listeners that never fail and differ only in the lists they leave: they do the same to the
browser and to the history. -/
def Listener.SameEffects (first second : Listener Play) : Prop :=
  ∀ page browser history, ∃ left left' browser' history',
    first page browser history = ((.ok left, browser'), history') ∧
      second page browser history = ((.ok left', browser'), history')

/-- Whether it makes no difference which of two lists a listener leaves of a page. -/
def Page.SameLeft (page : Page) (left left' : List ServerAddress) : Prop :=
  left.length = left'.length ∧ (page.isLast = false → left.getLast? = left'.getLast?)

/-- Whether it makes no difference which of two listeners a page is handed to. -/
def Listener.Agree (first second : Listener Play) (page : Page) (browser : Browser)
    (history : History) : Prop :=
  ∀ left left' browser' history',
    first page.servers browser history = ((.ok left, browser'), history') →
      second page.servers browser history = ((.ok left', browser'), history') →
        page.SameLeft left left'

namespace Listing

variable {S : Type} {listing : Listing} {world : Surroundings Play S}
  {first second : Listener Play} {socket : S} {state : State} {browser browser' : Browser}
  {history history' : History}

/-- That a listing behaves the same with two listeners: after every number of steps it is in the
same state with the same history, and the whole runs are the same. -/
structure Alike (listing : Listing) (world : Surroundings Play S) (first second : Listener Play)
    (browser : Browser) (history : History) : Prop where
  trace : ∀ count, listing.trace world first count browser history =
    listing.trace world second count browser history
  run : ∀ limit, listing.run world first limit browser history =
    listing.run world second limit browser history

/-! ## one delivery -/

/-- Only the number of the servers left and, unless the page is the last one, the last of them make
a difference to the state. -/
theorem delivered_eq_iff (listing : Listing) (state : State) (left left' : List ServerAddress) :
    listing.delivered state left = listing.delivered state left' ↔
      state.page.SameLeft left left' := by
  cases hlast : state.page.isLast with
  | true =>
      rw [delivered_of_isLast left hlast, delivered_of_isLast left' hlast]
      simp only [State.counted, Except.ok.injEq, State.mk.injEq, Int.add_right_inj,
        Int.natCast_inj, and_true, true_and, Page.SameLeft, hlast, Bool.true_eq_false,
        false_implies]
  | false =>
      cases hleft : left.getLast? with
      | none =>
          rw [List.getLast?_eq_none_iff] at hleft
          subst hleft
          rw [delivered_nil hlast]
          cases hleft' : left'.getLast? with
          | none =>
              rw [List.getLast?_eq_none_iff] at hleft'
              subst hleft'
              simp [delivered_nil hlast, Page.SameLeft]
          | some last' => simp [delivered_of_getLast? hlast hleft', Page.SameLeft, hlast, hleft']
      | some last =>
          rw [delivered_of_getLast? hlast hleft]
          cases hleft' : left'.getLast? with
          | none =>
              rw [List.getLast?_eq_none_iff] at hleft'
              subst hleft'
              simp [delivered_nil hlast, Page.SameLeft, hlast, hleft]
          | some last' =>
              rw [delivered_of_getLast? hlast hleft']
              simp only [State.counted, Except.ok.injEq, State.mk.injEq, Int.add_right_inj,
                Int.natCast_inj, and_comm, true_and, Page.SameLeft, hlast, hleft, hleft',
                Option.some.injEq, forall_const]

/-- A step is the same with two listeners exactly if it delivers no page on which they differ. -/
theorem step_eq_iff (listing : Listing) (world : Surroundings Play S) (socket : S)
    (h : first.SameEffects second) :
    listing.step world first socket state browser history =
        listing.step world second socket state browser history ↔
      (state.phase = .delivering → first.Agree second state.page browser history) := by
  by_cases phase : state.phase = .delivering
  · obtain ⟨left, left', browser', history', hfirst, hsecond⟩ :=
      h state.page.servers browser history
    rw [step_deliver phase hfirst, step_deliver phase hsecond, handedBack, handedBack,
      settle_delivered, settle_delivered, Prod.mk.injEq, Prod.mk.injEq, delivered_eq_iff]
    constructor
    · rintro ⟨⟨hsame, -⟩, -⟩ - _ _ _ _ hfirst' hsecond'
      cases hfirst.symm.trans hfirst'
      cases hsecond.symm.trans hsecond'
      exact hsame
    · intro hagree
      exact ⟨⟨hagree phase _ _ _ _ hfirst hsecond, rfl⟩, rfl⟩
  · have hstep :
        listing.step world first socket state = listing.step world second socket state := by
      rw [step, step]
      cases hphase : state.phase <;> simp_all [transition]
    simp [hstep, phase]

/-! ## whole listings -/

/-- Whether it makes no difference, at any delivery of a listing, which of two listeners the page is
handed to. -/
def AgreeThroughout (listing : Listing) (world : Surroundings Play S)
    (first second : Listener Play) (browser : Browser) (history : History) : Prop :=
  ∀ count socket state browser' history',
    listing.trace world first count browser history =
        ((.ok (socket, state), browser'), history') →
      state.phase = .delivering → first.Agree second state.page browser' history'

/-- Listeners that agree throughout a listing leave the same traces. -/
theorem AgreeThroughout.trace_eq
    (h : listing.AgreeThroughout world first second browser history)
    (hsame : first.SameEffects second) (count : Nat) :
    listing.trace world first count browser history =
      listing.trace world second count browser history := by
  induction count with
  | zero => rfl
  | succ count ih =>
      obtain ⟨result, browser', history', htrace⟩ :=
        exists_play (listing.trace world first count) browser history
      cases result with
      | error fault => rw [trace_succ_of_error htrace, trace_succ_of_error (ih ▸ htrace)]
      | ok here =>
          obtain ⟨socket, state⟩ := here
          have hstep := (step_eq_iff listing world socket hsame).2
            (h count socket state browser' history' htrace)
          obtain ⟨result, browser'', history'', hplay⟩ :=
            exists_play (listing.step world first socket state) browser' history'
          rw [trace_succ_of_ok htrace hplay, trace_succ_of_ok (ih ▸ htrace) (hstep ▸ hplay)]

/-- From anywhere on the trace, the steps that are left are the same as well. -/
theorem AgreeThroughout.steps_eq
    (h : listing.AgreeThroughout world first second browser history)
    (hsame : first.SameEffects second) (limit : Nat) {count : Nat}
    (htrace : listing.trace world first count browser history =
      ((.ok (socket, state), browser'), history')) :
    listing.steps world first socket limit state browser' history' =
      listing.steps world second socket limit state browser' history' := by
  induction limit generalizing count state browser' history' with
  | zero => rw [steps, steps]
  | succ limit ih =>
      cases hfinished : state.isFinished with
      | true => rw [steps_of_finished hfinished, steps_of_finished hfinished]
      | false =>
          have hstep := (step_eq_iff listing world socket hsame).2
            (h count socket state browser' history' htrace)
          obtain ⟨result, browser'', history'', hplay⟩ :=
            exists_play (listing.step world first socket state) browser' history'
          cases result with
          | error fault =>
              rw [steps_of_error hfinished hplay, steps_of_error hfinished (hstep ▸ hplay)]
          | ok next =>
              rw [steps_of_ok hfinished hplay, steps_of_ok hfinished (hstep ▸ hplay),
                ih (trace_succ_of_ok htrace hplay)]

/-- Listeners that agree throughout a listing make the same run of it. -/
theorem AgreeThroughout.run_eq
    (h : listing.AgreeThroughout world first second browser history)
    (hsame : first.SameEffects second) (limit : Nat) :
    listing.run world first limit browser history =
      listing.run world second limit browser history := by
  obtain ⟨result, browser', history', -, htrace⟩ :=
    trace_zero listing world first browser history
  cases result with
  | error fault =>
      rw [run_of_trace_error htrace, run_of_trace_error (h.trace_eq hsame 0 ▸ htrace)]
  | ok socket => exact run_congr htrace (h.steps_eq hsame limit htrace)

/-- **What a listener does to its pages makes a difference exactly where it leaves another number of
servers or, unless the page is the last one, another last server.** -/
theorem alike_iff (listing : Listing) (world : Surroundings Play S) (browser : Browser)
    (history : History) (hsame : first.SameEffects second) :
    listing.Alike world first second browser history ↔
      listing.AgreeThroughout world first second browser history := by
  constructor
  · intro halike count socket state browser' history' htrace
    refine (step_eq_iff listing world socket hsame).1 ?_
    obtain ⟨result, browser₁, history₁, hfirst⟩ :=
      exists_play (listing.step world first socket state) browser' history'
    obtain ⟨result', browser₂, history₂, hsecond⟩ :=
      exists_play (listing.step world second socket state) browser' history'
    have hnext := halike.trace (count + 1)
    rw [trace_succ_of_ok htrace hfirst,
      trace_succ_of_ok (halike.trace count ▸ htrace) hsecond] at hnext
    obtain ⟨hpair, hhistory⟩ := Prod.mk.inj hnext
    obtain ⟨hmap, hbrowser⟩ := Prod.mk.inj hpair
    have hresult : result = result' := by
      cases result <;> cases result' <;> simp_all [Except.map]
    rw [hfirst, hsecond, hresult, hbrowser, hhistory]
  · exact fun hagree => ⟨hagree.trace_eq hsame, hagree.run_eq hsame⟩

/-! ## a listener that steers -/

/-- Two pages: two servers, and the end. -/
def twoPages : Scenario :=
  Script.scenario [{
    receives := [
      .ok (Response.header ++ [1, 2, 3, 4, 105, 135, 5, 6, 7, 8, 0, 80]),
      .ok (Response.header ++ [0, 0, 0, 0, 0, 0])] }] .direct

theorem sameEffects_reversing : (Listener.always [.reverse]).SameEffects (.always []) :=
  fun page browser history => ⟨page.reverse, page, browser, history ++ [.paged page], rfl, rfl⟩

/-- The criterion for a listener that turns its pages around. -/
theorem alike_iff_reversing :
    (Listener.always [.reverse]).SameEffects (.always []) ∧
      (Alike ⟨.text "127.0.0.1:27011", [], .standard⟩ (twoPages.world false)
          (.always [.reverse]) (.always []) {} [] ↔
        AgreeThroughout ⟨.text "127.0.0.1:27011", [], .standard⟩ (twoPages.world false)
          (.always [.reverse]) (.always []) {} []) :=
  ⟨sameEffects_reversing, alike_iff _ _ _ _ sameEffects_reversing⟩

/-- A listener that turns its pages around has the listing continue from the first server of the
page: other packets are sent, and the listing ends with another cursor. -/
theorem run_reversing :
    let listing : Listing := ⟨.text "127.0.0.1:27011", [], .standard⟩
    let reversed := listing.run (twoPages.world false) (.always [.reverse]) 10 {} []
    let read := listing.run (twoPages.world false) (.always []) 10 {} []
    (Listener.always [.reverse]).SameEffects (.always []) ∧
      (History.traffic 0 reversed.2).sent ≠ (History.traffic 0 read.2).sent ∧
      reversed.1.1.toOption.map State.cursor = some ⟨"1.2.3.4", 27015⟩ ∧
      read.1.1.toOption.map State.cursor = some ⟨"5.6.7.8", 80⟩ :=
  ⟨sameEffects_reversing, by decide +kernel, by decide +kernel, by decide +kernel⟩

end Listing

end ServerBrowser
