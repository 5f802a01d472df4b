import ServerBrowser.Proofs.Scenario
import ServerBrowser.Scenario.Behaviour

/-!
# ServerBrowser.Proofs.Listener

Listeners that run no query.  Such a listener hears the page it is given: what it adds to the
history is the page, and after it asides, which no query acts on.  It may fail, set the cancel
signal, try to add filters or change the page.  A listener that leaves its pages as they are attends
to them.

Every behaviour of actions of these kinds hears (`Behaviour.hears_listener`), and attends if none of
them changes a page (`Behaviour.attends_listener`).
-/

namespace ServerBrowser

open Scenario

/-- Whether an event is neither an operation of a query nor a page: a signal that is set, or a text
that is said. -/
def Event.isAside : Event → Bool
  | .cancelled | .logged _ | .logSetUp .. | .printed _ | .reported _ => true
  | _ => false

/-- Events that are asides. -/
def History.Asides (more : History) : Prop :=
  ∀ event ∈ more, event.isAside = true

/-- A listener that runs no query.  It may fail, and make of its page what it will. -/
def Listener.Hears (listener : Listener Play) : Prop :=
  ∀ page browser history, ∃ result browser' asides,
    listener page browser history = ((result, browser'), history ++ .paged page :: asides) ∧
      History.Asides asides

/-- A listener that leaves its pages as they are and runs no query.  It may fail. -/
def Listener.Attends (listener : Listener Play) : Prop :=
  ∀ page browser history, ∃ result browser' asides,
    listener page browser history = ((result, browser'), history ++ .paged page :: asides) ∧
      (∀ left, result = .ok left → left = page) ∧ History.Asides asides

namespace History

variable {first second : History}

theorem asides_nil : Asides [] := by simp [Asides]

/-- What is true of a signal that is set, and of all that is said, is true of asides. -/
theorem Asides.all {holds : Event → Prop} {more : History} (h : more.Asides)
    (cancelled : holds .cancelled := by rfl)
    (logged : ∀ record, holds (.logged record) := by intros; rfl)
    (logSetUp : ∀ level debugged, holds (.logSetUp level debugged) := by intros; rfl)
    (printed : ∀ text, holds (.printed text) := by intros; rfl)
    (reported : ∀ text, holds (.reported text) := by intros; rfl) :
    ∀ event ∈ more, holds event := by
  intro event hevent
  have haside := h event hevent
  cases event with
  | cancelled => exact cancelled
  | logged record => exact logged record
  | logSetUp level debugged => exact logSetUp level debugged
  | printed text => exact printed text
  | reported text => exact reported text
  | _ => cases haside

theorem Asides.append (hfirst : Asides first) (hsecond : Asides second) :
    Asides (first ++ second) := by
  intro event hevent
  obtain hevent | hevent := List.mem_append.1 hevent
  · exact hfirst event hevent
  · exact hsecond event hevent

theorem asides_logged (records : List Log.Record) : Asides (records.map .logged) := by
  simp [Asides, Event.isAside]

end History

/-! ## behaviours -/

/-- Whether an action leaves pages as they are and runs no query. -/
def Action.watches : Action → Bool
  | .fail _ | .cancel | .addFilters _ => true
  | .clear | .pop | .reverse | .append _ | .query => false

theorem Action.ne_query_of_watches {action : Action} (h : action.watches = true) :
    action ≠ .query := by
  rintro rfl
  cases h

namespace Behaviour

/-- Adding filters is a matter between listener and browser. -/
theorem addFilters_play (tokens : List String) (browser : Browser) (history : History) :
    (addFilters tokens : Play _) browser history =
      match browser.addFilters tokens with
      | .error fault => ((.error fault, browser), history)
      | .ok added => ((.ok (), added), history) := by
  have hget : (getThe Browser : Play Browser) browser history = ((browser, browser), history) := rfl
  rw [addFilters, play_bind hget]
  cases browser.addFilters tokens <;> rfl

/-- Actions that run no query add asides to the history, and leave the page as it is if none of them
changes it.  What has happened before makes no difference to them. -/
theorem perform_asides {actions : List Action} (h : ∀ action ∈ actions, action ≠ .query)
    (page : List ServerAddress) (browser : Browser) :
    ∃ result browser' asides,
      (∀ (ask : Play (Except Fault Int)) (history : History),
        (perform ask actions page : Play _) browser history =
          ((result, browser'), history ++ asides)) ∧
        ((∀ action ∈ actions, action.watches = true) → ∀ left, result = .ok left → left = page) ∧
        History.Asides asides := by
  induction actions generalizing page browser with
  | nil =>
      refine ⟨.ok page, browser, [], ?_, by simp, History.asides_nil⟩
      intro ask history
      rw [List.append_nil]
      rfl
  | cons action rest ih =>
      obtain ⟨haction, hrest⟩ := List.forall_mem_cons.1 h
      have hchanged : ∀ changed, action.watches = false →
          (∀ ask : Play (Except Fault Int),
            (perform ask (action :: rest) page : Play _) = perform ask rest changed) →
          ∃ result browser' asides,
            (∀ (ask : Play (Except Fault Int)) (history : History),
              (perform ask (action :: rest) page : Play _) browser history =
                ((result, browser'), history ++ asides)) ∧
              ((∀ other ∈ action :: rest, other.watches = true) →
                ∀ left, result = .ok left → left = page) ∧
              History.Asides asides := by
        intro changed hchanges hperform
        obtain ⟨result, browser', asides, hplay, -, hasides⟩ := ih hrest changed browser
        refine ⟨result, browser', asides, fun ask => hperform ask ▸ hplay ask, ?_, hasides⟩
        intro hwatches
        cases hchanges.symm.trans (hwatches action List.mem_cons_self)
      cases action with
      | query => exact absurd rfl haction
      | clear => exact hchanged [] rfl fun _ => rfl
      | reverse => exact hchanged page.reverse rfl fun _ => rfl
      | append server => exact hchanged (page ++ [server]) rfl fun _ => rfl
      | pop =>
          cases page with
          | cons first others => exact hchanged (first :: others).dropLast rfl fun _ => rfl
          | nil =>
              refine ⟨.error (.raised .index "pop from empty list"), browser, [], ?_, by simp,
                History.asides_nil⟩
              intro ask history
              rw [List.append_nil]
              rfl
      | fail fault =>
          refine ⟨.error fault, browser, [], ?_, by simp, History.asides_nil⟩
          intro ask history
          rw [List.append_nil]
          rfl
      | cancel =>
          obtain ⟨result, browser', asides, hplay, hleft, hasides⟩ := ih hrest page browser
          have hset : History.Asides [.cancelled] := by simp [History.Asides, Event.isAside]
          refine ⟨result, browser', .cancelled :: asides, ?_,
            fun hwatches => hleft (List.forall_mem_cons.1 hwatches).2, hset.append hasides⟩
          intro ask history
          rw [List.append_cons, ← hplay ask]
          rfl
      | addFilters tokens =>
          have hadd := addFilters_play tokens browser
          cases hresult : browser.addFilters tokens with
          | error fault =>
              rw [hresult] at hadd
              refine ⟨.error fault, browser, [], ?_, by simp, History.asides_nil⟩
              intro ask history
              rw [List.append_nil, perform]
              exact play_bind (hadd history)
          | ok added =>
              rw [hresult] at hadd
              obtain ⟨result, browser', asides, hplay, hleft, hasides⟩ := ih hrest page added
              refine ⟨result, browser', asides, ?_,
                fun hwatches => hleft (List.forall_mem_cons.1 hwatches).2, hasides⟩
              intro ask history
              rw [perform, ← hplay ask]
              exact play_bind (hadd history)

/-- A behaviour of such actions is given the page, and does with it what its actions say. -/
theorem listener_asides {behaviour : Behaviour}
    (h : ∀ history, ∀ action ∈ behaviour history, action ≠ .query)
    (page : List ServerAddress) (browser : Browser) (base : History) :
    ∃ result browser' asides,
      (∀ (ask : Listener Play → Play (Except Fault Int)) (depth : Nat) (history : History),
        behaviour history = behaviour base →
        (behaviour.listener ask depth page : Play _) browser history =
          ((result, browser'), history ++ .paged page :: asides)) ∧
        ((∀ action ∈ behaviour base, action.watches = true) →
          ∀ left, result = .ok left → left = page) ∧
        History.Asides asides := by
  obtain ⟨result, browser', asides, hplay, hleft, hasides⟩ :=
    perform_asides (h base) page browser
  refine ⟨result, browser', asides, ?_, hleft, hasides⟩
  intro ask depth history hsame
  have hpaged (ask : Play (Except Fault Int)) :
      perform ask (behaviour history) page browser (history ++ [.paged page]) =
        ((result, browser'), history ++ .paged page :: asides) := by
    rw [hsame, hplay, List.append_assoc]
    rfl
  cases depth with
  | zero => exact hpaged _
  | succ depth => exact hpaged _

/-- **A behaviour that runs no query hears.** -/
theorem hears_listener {behaviour : Behaviour}
    (h : ∀ history, ∀ action ∈ behaviour history, action ≠ .query)
    (ask : Listener Play → Play (Except Fault Int)) (depth : Nat) :
    (behaviour.listener ask depth).Hears := by
  intro page browser history
  obtain ⟨result, browser', asides, hplay, -, hasides⟩ := listener_asides h page browser history
  exact ⟨result, browser', asides, hplay ask depth history rfl, hasides⟩

/-- **A behaviour that changes no page besides attends.** -/
theorem attends_listener {behaviour : Behaviour}
    (h : ∀ history, ∀ action ∈ behaviour history, action.watches = true)
    (ask : Listener Play → Play (Except Fault Int)) (depth : Nat) :
    (behaviour.listener ask depth).Attends := by
  intro page browser history
  obtain ⟨result, browser', asides, hplay, hleft, hasides⟩ :=
    listener_asides (fun past action hmem => Action.ne_query_of_watches (h past action hmem)) page
      browser history
  exact ⟨result, browser', asides, hplay ask depth history rfl, hleft (h history), hasides⟩

end Behaviour

end ServerBrowser
