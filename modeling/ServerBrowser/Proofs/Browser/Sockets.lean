import ServerBrowser.Proofs.Brackets
import ServerBrowser.Proofs.Browser.Batches
import ServerBrowser.Proofs.Listener
import ServerBrowser.Scenario.Script

/-!
# ServerBrowser.Proofs.Browser.Sockets

The sockets of a query.  Whatever is sent, lost or received, however a listing ends, and whatever a
listener does, a listing closes the socket that it has opened, and does so before anything comes
after it (`run_encloses`).  So the batches of a query are brackets in a row (`Browser.Listed`).

A listener may run queries of its own.  `Procedure` says of which parts it is made: actions that
concern no socket, and queries that are listened to by such listeners again, to any depth.  By
induction on these parts all that a listener does is bracketed (`Procedure.brackets`), and
`query_closes` says what that means for each socket.
-/

namespace ServerBrowser

open Scenario

/-! ## procedures -/

/-- Whether an action concerns no socket. -/
def Scenario.Play.IsAside {α : Type} (action : Play α) : Prop :=
  ∀ browser history, ∃ a browser' more,
    action browser history = ((a, browser'), history ++ more) ∧
      ∀ event ∈ more, event.socket? = none

/-- What listeners are made of: actions that concern no socket, and queries of any client whose
listeners are made of the same, one after another. -/
inductive Scenario.Procedure (scenario : Scenario) : {α : Type} → Play α → Prop
  | aside {α : Type} {action : Play α} (aside : action.IsAside) : scenario.Procedure action
  | bind {α β : Type} {action : Play α} {next : α → Play β} (first : scenario.Procedure action)
    (rest : ∀ a, scenario.Procedure (next a)) : scenario.Procedure (action >>= next)
  | query {listener : Listener Play} (client : Client) (cancellable : Bool) (limit : Nat)
    (listens : ∀ page, scenario.Procedure (listener page)) :
    scenario.Procedure (Browser.query client (scenario.world cancellable) listener limit)

/-- Whether all that an action adds to a history is bracketed. -/
def Scenario.Brackets (scenario : Scenario) {α : Type} (action : Play α) : Prop :=
  ∀ browser history, ∃ a browser' since,
    action browser history = ((a, browser'), history ++ since) ∧
      Bracketed scenario none history since

namespace Scenario.Play

variable {α : Type}

theorem isAside_pure (a : α) : IsAside (pure a : Play α) := by
  intro browser history
  exact ⟨a, browser, [], by rw [List.append_nil]; rfl, by simp⟩

/-- To look at the history adds nothing to it. -/
theorem isAside_getHistory : IsAside (getThe History : Play History) := by
  intro browser history
  exact ⟨history, browser, [], by rw [List.append_nil]; rfl, by simp⟩

theorem isAside_note {event : Event} (h : event.socket? = none) :
    IsAside (note event : Play Unit) := by
  intro browser history
  exact ⟨(), browser, [event], rfl, by simpa using h⟩

theorem isAside_addFilters (tokens : List String) :
    IsAside (Behaviour.addFilters tokens : Play (Except Fault Unit)) := by
  intro browser history
  have hplay := Behaviour.addFilters_play tokens browser history
  cases hresult : browser.addFilters tokens with
  | error fault =>
      rw [hresult] at hplay
      exact ⟨_, _, [], by rw [List.append_nil]; exact hplay, by simp⟩
  | ok added =>
      rw [hresult] at hplay
      exact ⟨_, _, [], by rw [List.append_nil]; exact hplay, by simp⟩

end Scenario.Play

namespace Behaviour

variable {scenario : Scenario}

/-- All actions of a listener are procedures, if asking is one. -/
theorem procedure_perform {ask : Play (Except Fault Int)} (hask : scenario.Procedure ask)
    (actions : List Action) (page : List ServerAddress) :
    scenario.Procedure (perform ask actions page : Play _) := by
  induction actions generalizing page with
  | nil => exact .aside (Play.isAside_pure _)
  | cons action rest ih =>
      cases action with
      | fail fault => exact .aside (Play.isAside_pure _)
      | clear | reverse | append => exact ih _
      | pop =>
          rw [perform]
          split
          · exact .aside (Play.isAside_pure _)
          · exact ih _
      | cancel => exact .bind (.aside (Play.isAside_note rfl)) fun _ => ih page
      | addFilters tokens =>
          refine .bind (.aside (Play.isAside_addFilters tokens)) fun added => ?_
          cases added with
          | error fault => exact .aside (Play.isAside_pure _)
          | ok => exact ih page
      | query =>
          refine .bind hask fun asked => ?_
          cases asked with
          | error fault => exact .aside (Play.isAside_pure _)
          | ok total => exact .bind (.aside (Play.isAside_note rfl)) fun _ => ih page

/-- **Every behaviour is a procedure**, however deep its queries are nested. -/
theorem procedure_listener (behaviour : Behaviour) (client : Client) (cancellable : Bool)
    (limit depth : Nat) (page : List ServerAddress) :
    scenario.Procedure (behaviour.listener
      (fun listener => Browser.query client (scenario.world cancellable) listener limit) depth
        page : Play _) := by
  induction depth generalizing page with
  | zero =>
      refine .bind (.aside Play.isAside_getHistory) fun history => ?_
      refine .bind (.aside (Play.isAside_note rfl)) fun _ => ?_
      exact procedure_perform (.aside (Play.isAside_pure _)) _ page
  | succ depth ih =>
      refine .bind (.aside Play.isAside_getHistory) fun history => ?_
      refine .bind (.aside (Play.isAside_note rfl)) fun _ => ?_
      exact procedure_perform (.query client cancellable limit ih) _ page

end Behaviour

/-! ## listings -/

namespace Listing

variable {listing : Listing} {scenario : Scenario} {cancellable : Bool} {listener : Listener Play}
  {socket : Nat} {base past more : History} {state : State} {browser browser' : Browser}
  {history history' : History}

/-- What a listing adds to a history: its opening and nothing more where it gets no socket, and
otherwise all that it does between its opening and the end of its socket.  After that end it only
has something to say. -/
inductive Encloses (listing : Listing) (scenario : Scenario) (past : History) : History → Prop
  | refused {fault : Fault} (answer : scenario.connect (listing.opened past) = .error fault) :
    Encloses listing scenario past (listing.opening past.socketCount)
  | enclosed {inside : History} {records : List Log.Record}
    (answer : scenario.connect (listing.opened past) = .ok ())
    (within : Bracketed scenario (some past.socketCount) (listing.opened past) inside) :
    Encloses listing scenario past (listing.opening past.socketCount ++ inside ++
      .closed past.socketCount :: records.map .logged)

/-- The first words of a listing open no socket. -/
theorem socketCount_started (listing : Listing) (past : History) :
    History.socketCount (past ++ [.logged listing.startRecord]) = past.socketCount := by
  simp [History.socketCount]

theorem Encloses.bracketed {owner : Option Nat} (h : listing.Encloses scenario past more) :
    Bracketed scenario owner past more := by
  have hstart : Bracketed scenario owner past [.logged listing.startRecord] :=
    .of_logged [listing.startRecord]
  cases h with
  | refused answer => exact hstart.refused (socketCount_started listing past).symm answer
  | @enclosed inside records answer within =>
      have hsocket := hstart.socket (socketCount_started listing past).symm answer within
      have hsaid := hsocket.append (.of_logged records)
      simpa [opening] using hsaid

/-- A step adds nothing that is not bracketed, if its listener does not. -/
theorem Move.brackets {result : Except Fault State}
    (hmove : Move listing scenario cancellable listener socket state browser history result browser'
      history')
    (hbrackets : ∀ page, scenario.Brackets (listener page)) :
    ∃ since, history' = history ++ since ∧ Bracketed scenario (some socket) history since := by
  obtain ⟨-, since, hsince, hown⟩ | ⟨left, hlistens⟩ := hmove.frame
  · exact ⟨since, hsince, .of_own hown⟩
  · obtain ⟨left', browser'', since, hplay, hsince⟩ :=
      hbrackets state.page.servers browser history
    cases hplay.symm.trans hlistens
    exact ⟨since, rfl, hsince.weaken⟩

/-- **A listing closes its socket**, in whatever way it ends. -/
theorem run_encloses (hbrackets : ∀ page, scenario.Brackets (listener page)) (listing : Listing)
    (cancellable : Bool) (limit : Nat) (browser : Browser) (history : History) :
    ∃ result browser' more,
      listing.run (scenario.world cancellable) listener limit browser history =
        ((result, browser'), history ++ more) ∧
      listing.Encloses scenario history more := by
  cases hopen : scenario.connect (listing.opened history) with
  | error fault =>
      have hrun : listing.run (scenario.world cancellable) listener limit browser history =
          ((.error fault, browser), listing.opened history) :=
        run_play_error listing scenario cancellable listener hopen
      rw [opened_eq] at hrun
      exact ⟨_, _, _, hrun, .refused hopen⟩
  | ok =>
      obtain ⟨result, browser', history', hsteps, hholds⟩ :=
        listing.steps_induction scenario cancellable listener history.socketCount
          (fun _ _ history' => ∃ inside, history' = listing.opened history ++ inside ∧
            Bracketed scenario (some history.socketCount) (listing.opened history) inside)
          (fun _ _ history' => ∃ inside, history' = listing.opened history ++ inside ∧
            Bracketed scenario (some history.socketCount) (listing.opened history) inside)
          (by
            rintro state browser _ result browser' history' ⟨inside, rfl, hinside⟩ - hmove
            obtain ⟨since, rfl, hsince⟩ := hmove.brackets hbrackets
            have hnext : ∃ inside', listing.opened history ++ inside ++ since =
                listing.opened history ++ inside' ∧
                Bracketed scenario (some history.socketCount) (listing.opened history) inside' :=
              ⟨inside ++ since, by simp, hinside.append hsince⟩
            cases result with
            | ok next => exact hnext
            | error fault => exact hnext)
          limit browser ⟨[], (List.append_nil _).symm, .nil⟩
      obtain ⟨inside, rfl, hinside⟩ : ∃ inside, history' = listing.opened history ++ inside ∧
          Bracketed scenario (some history.socketCount) (listing.opened history) inside := by
        cases result with
        | ok final => exact hholds.2
        | error fault =>
            obtain hleft | ⟨-, final, hkept⟩ := hholds
            · exact hleft
            · exact hkept
      have hrun := run_play listing scenario cancellable listener history hopen hsteps
      obtain ⟨records, hclosing⟩ := closing_eq listing history.socketCount result
      have hencloses : listing.Encloses scenario history (listing.opening history.socketCount ++
          inside ++ .closed history.socketCount :: records.map .logged) :=
        .enclosed hopen hinside
      rw [hclosing, opened_eq, List.append_assoc, List.append_assoc, ← List.append_assoc _ inside]
        at hrun
      exact ⟨_, _, _, hrun, hencloses⟩

end Listing

/-! ## queries -/

namespace Browser

variable {client : Client} {scenario : Scenario} {listener : Listener Play} {number : Nat}
  {past since : History} {batches : List (List String)}

/-- What the batches of a query add to a history, the first of them with the given number: each is
announced and then listed, and the next one is announced after the socket of the one before is
closed.  No batch comes after one whose listing has failed. -/
inductive Listed (client : Client) (scenario : Scenario) :
    Nat → History → History → List (List String) → Prop
  | ended {number : Nat} {past : History} : Listed client scenario number past [] []
  | failed {number : Nat} {past announced listed : History} {batch : List String}
    {rest : List (List String)}
    (announces : announced = (batchRecords client number batch).map .logged)
    (encloses : Listing.Encloses ⟨client.master, batch, client.settings⟩ scenario
      (past ++ announced) listed) :
    Listed client scenario number past (announced ++ listed) (batch :: rest)
  | batch {number : Nat} {past announced listed since : History} {batch : List String}
    {rest : List (List String)}
    (announces : announced = (batchRecords client number batch).map .logged)
    (encloses : Listing.Encloses ⟨client.master, batch, client.settings⟩ scenario
      (past ++ announced) listed)
    (others : Listed client scenario (number + 1) (past ++ announced ++ listed) since rest) :
    Listed client scenario number past (announced ++ listed ++ since) (batch :: rest)

/-- Batches in a row are brackets in a row. -/
theorem Listed.bracketed (h : Listed client scenario number past since batches) :
    Bracketed scenario none past since := by
  induction h with
  | ended => exact .nil
  | failed announces encloses =>
      subst announces
      exact (Bracketed.of_logged _).append encloses.bracketed
  | @batch number past announced listed since batch rest announces encloses others ih =>
      subst announces
      have hlisted : Bracketed scenario none past (_ ++ listed) :=
        (Bracketed.of_logged _).append encloses.bracketed
      refine hlisted.append ?_
      rwa [← List.append_assoc]

/-- The listings of a query close their sockets one after another. -/
theorem listBatches_listed (hbrackets : ∀ page, scenario.Brackets (listener page))
    (client : Client) (cancellable : Bool) (limit number : Nat) (total : Int)
    (batches : List (List String)) (browser : Browser) (history : History) :
    ∃ result browser' since,
      listBatches client (scenario.world cancellable) listener limit number total batches browser
          history = ((result, browser'), history ++ since) ∧
        Listed client scenario number history since batches := by
  induction batches generalizing number total browser history with
  | nil => exact ⟨.ok total, browser, [], by rw [List.append_nil]; rfl, .ended⟩
  | cons batch rest ih =>
      obtain ⟨listed, browser', more, hrun, hencloses⟩ :=
        Listing.run_encloses hbrackets ⟨client.master, batch, client.settings⟩ cancellable limit
          browser (batchStarted client number batch history)
      cases listed with
      | error fault =>
          refine ⟨.error fault, browser', _, (listBatches_of_error hrun).trans ?_,
            .failed rfl hencloses⟩
          rw [batchStarted, List.append_assoc]
      | ok state =>
          obtain ⟨result, browser'', since, hplay, hothers⟩ := ih (number + 1)
            (total + state.serversDelivered) browser'
            (batchStarted client number batch history ++ more)
          refine ⟨result, browser'', _, (listBatches_of_ok hrun).trans ?_,
            .batch rfl hencloses hothers⟩
          rw [hplay, batchStarted]
          simp only [List.append_assoc]

/-- The listings of a query, and what it says in the end. -/
theorem query_listed (hbrackets : ∀ page, scenario.Brackets (listener page)) (client : Client)
    (cancellable : Bool) (limit : Nat) (browser : Browser) (history : History) :
    ∃ result browser' listed,
      (query client (scenario.world cancellable) listener limit : Play _) browser history =
        ((result, browser'), history ++ listed ++ ending result) ∧
      Listed client scenario 1 history listed
        (Filter.batches client.settings.filterBudget browser.filters) := by
  obtain ⟨result, browser', listed, hplay, hlisted⟩ := listBatches_listed hbrackets client
    cancellable limit 1 0 (Filter.batches client.settings.filterBudget browser.filters)
    { browser with querying := true } history
  exact ⟨result, _, listed, query_play hplay, hlisted⟩

end Browser

/-- **All that a procedure does is bracketed.** -/
theorem Scenario.Procedure.brackets {scenario : Scenario} {α : Type} {action : Play α}
    (h : scenario.Procedure action) : scenario.Brackets action := by
  induction h with
  | aside aside =>
      intro browser history
      obtain ⟨a, browser', more, hplay, hmore⟩ := aside browser history
      exact ⟨a, browser', more, hplay, .of_forall fun event hevent => .inl (hmore event hevent)⟩
  | bind first rest ihFirst ihRest =>
      intro browser history
      obtain ⟨a, browser₁, done, hfirst, hdone⟩ := ihFirst browser history
      obtain ⟨b, browser₂, more, hrest, hmore⟩ := ihRest a browser₁ (history ++ done)
      refine ⟨b, browser₂, done ++ more, (play_bind hfirst).trans ?_, hdone.append hmore⟩
      rw [hrest, List.append_assoc]
  | query client cancellable limit listens ih =>
      intro browser history
      obtain ⟨result, browser', listed, hplay, hlisted⟩ :=
        Browser.query_listed ih client cancellable limit browser history
      refine ⟨result, browser', listed ++ Browser.ending result, ?_, hlisted.bracketed.append ?_⟩
      · rw [hplay, List.append_assoc]
      · cases result with
        | ok total => exact .of_logged [_]
        | error fault => exact .nil

namespace Browser

/-- **A query closes every socket that it gets, once, and uses it in between only.**  The batches
are listed one after the other, each over a socket that is closed before anything else happens; a
socket that is opened is closed once, with nothing about it before or after, whatever else is opened
in between is closed in between, and nothing is done on a socket that has not been opened. -/
theorem query_closes (client : Client) (scenario : Scenario) (cancellable : Bool)
    (listener : Listener Play) (limit : Nat) (browser : Browser) (history : History)
    (hlistener : ∀ page, scenario.Procedure (listener page)) :
    ∃ result browser' listed,
      (query client (scenario.world cancellable) listener limit : Play _) browser history =
        ((result, browser'), history ++ listed ++ ending result) ∧
      Listed client scenario 1 history listed
        (Filter.batches client.settings.filterBudget browser.filters) ∧
      (∀ before socket master timeout, before ++ [.opened socket master timeout] <+: listed →
        scenario.connect (history ++ before ++ [.opened socket master timeout]) = .ok () →
        ∃ inside after,
          listed = before ++ .opened socket master timeout :: inside ++ .closed socket :: after ∧
          Lifetime scenario history before (.opened socket master timeout) socket inside after) ∧
      (∀ before event socket, before ++ [event] <+: listed → event.socket? = some socket →
        (∃ master timeout, event = .opened socket master timeout) ∨
          ∃ earlier master timeout, earlier ++ [.opened socket master timeout] <+: before ∧
            scenario.connect (history ++ earlier ++ [.opened socket master timeout]) = .ok ()) := by
  obtain ⟨result, browser', listed, hplay, hlisted⟩ :=
    query_listed (fun page => (hlistener page).brackets) client cancellable limit browser history
  have hbracketed := hlisted.bracketed
  refine ⟨result, browser', listed, hplay, hlisted, ?_, ?_⟩
  · intro before socket master timeout hopened hanswer
    exact hbracketed.closes (by simp) hopened hanswer
  · intro before event socket hevent habout
    obtain hnone | hentered := hbracketed.entered hevent habout
    · cases hnone
    · exact hentered

/-- A listener that runs a query on its first page, and fails on the second one, which is that of
the query within. -/
def nesting (scenario : Scenario) : Listener Play :=
  (Behaviour.ofCalls [[.query], [.fail (.raised .query "full")]] 0).listener
    (fun listener => query ⟨.text "master:27011", .standard⟩ (scenario.world false) listener 10) 1

/-- Two sockets, each with a page. -/
def twoPages : Scenario :=
  Script.scenario [
    { receives := [.ok (Response.header ++ [1, 2, 3, 4, 105, 135])] },
    { receives := [.ok (Response.header ++ [5, 6, 7, 8, 0, 80])] }] .direct

/-- A query within a query, both of which fail. -/
theorem query_closes_nesting :
    (∀ page, twoPages.Procedure (nesting twoPages page)) ∧
      ∃ result browser' listed,
        (query ⟨.text "master:27011", {}⟩ (twoPages.world true) (nesting twoPages) 10 : Play _)
            ⟨["\\a\\1"], false⟩ [] = ((result, browser'), listed ++ ending result) ∧
        Listed ⟨.text "master:27011", {}⟩ twoPages 1 [] listed
          (Filter.batches ({} : Settings).filterBudget ["\\a\\1"]) ∧
        (∀ before socket master timeout, before ++ [.opened socket master timeout] <+: listed →
          twoPages.connect (before ++ [.opened socket master timeout]) = .ok () →
          ∃ inside after,
            listed = before ++ .opened socket master timeout :: inside ++ .closed socket :: after ∧
            Lifetime twoPages [] before (.opened socket master timeout) socket inside after) := by
  have hlistener : ∀ page, twoPages.Procedure (nesting twoPages page) :=
    Behaviour.procedure_listener _ _ false 10 1
  obtain ⟨result, browser', listed, hplay, hlisted, hcloses, -⟩ :=
    query_closes ⟨.text "master:27011", {}⟩ twoPages true (nesting twoPages) 10
      ⟨["\\a\\1"], false⟩ [] hlistener
  exact ⟨hlistener, result, browser', listed, hplay, hlisted, hcloses⟩

end Browser

end ServerBrowser
