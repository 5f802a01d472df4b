import ServerBrowser.Proofs.Browser.Conversations
import ServerBrowser.Proofs.Browser.Lock
import ServerBrowser.Proofs.Filter.Batch

/-!
# ServerBrowser.Proofs.Browser.Sessions

A running query works on the filters it started with, although it shares them with its listener,
and the listener may add to them once a query that it has run inside has ended.

Two things are written down here that a query does not tell.  It may cut its batches only while it
lists them, so that additions happen between any two cuts (`Browser.queryPiecemeal`); that makes no
difference, since only the first batch is cut off the filters of the browser and each later one off
what was left.  And each query that a routine runs, also inside another one, leaves a session: the
filters where it started and what it said over its sockets (`Routine.account`).  A routine goes the
same way whether its sessions are written down or not, and in each session the batches are talked
about of the filters at its own start (`Routine.account_converses`).
-/

namespace ServerBrowser

variable {m : Type → Type} [Monad m] {S : Type}

/-! ## cutting batches while listing -/

namespace Browser

/-- List batch after batch, and cut each one off the tokens that are left only when its turn
comes. -/
def listPiecemeal (client : Client) (world : Surroundings m S) (listener : Listener m)
    (limit number : Nat) (total : Int) (tokens : List String) : m (Except Fault Int) := do
  let batch := (Filter.nextBatch client.settings.filterBudget tokens).1
  let left := (Filter.nextBatch client.settings.filterBudget tokens).2
  (Filter.batchRemarks client.settings.filterBudget batch).forM world.log
  world.log (record s!"Starting filter batch {number} ({batch.length} filters)")
  let listing : Listing := ⟨client.master, batch, client.settings⟩
  match ← listing.run world listener limit with
  | .error fault => return .error fault
  | .ok state =>
    let total := total + state.serversDelivered
    if _hleft : left = [] then return .ok total
    else listPiecemeal client world listener limit (number + 1) total left
termination_by tokens.length
decreasing_by
  refine Filter.length_nextBatch_lt client.settings.filterBudget fun htokens => _hleft ?_
  subst htokens
  rfl

theorem listPiecemeal_eq (client : Client) (world : Surroundings m S) (listener : Listener m)
    (limit number : Nat) (total : Int) (tokens : List String) :
    listPiecemeal client world listener limit number total tokens =
      listBatches client world listener limit number total
        (Filter.batches client.settings.filterBudget tokens) := by
  fun_induction listPiecemeal client world listener limit number total tokens with
  | case1 number total tokens batch left ih =>
      rw [Filter.batches_eq_cons, listBatches]
      refine bind_congr fun _ => bind_congr fun _ => bind_congr fun listed => ?_
      cases listed with
      | error fault => rfl
      | ok state =>
          show (if _hleft : left = [] then _ else _) = listBatches _ _ _ _ _ _ (Filter.cut _ left)
          by_cases hleft : left = []
          · rw [dif_pos hleft, Filter.cut, dif_pos hleft, listBatches]
          · rw [dif_neg hleft, ih state hleft, Filter.batches, if_neg hleft]

/-- A query that cuts its batches while it lists them.  The filters of the browser are looked at
once, when it starts. -/
def queryPiecemeal [MonadStateOf Browser m] (client : Client) (world : Surroundings m S)
    (listener : Listener m) (limit : Nat) : m (Except Fault Int) := do
  let browser ← getThe Browser
  modifyThe Browser fun b => { b with querying := true }
  let result ← listPiecemeal client world listener limit 1 0 browser.filters
  modifyThe Browser fun b => { b with querying := false }
  match result with
  | .error fault => return .error fault
  | .ok total =>
    world.log (record s!"Master query finished: {total} server(s)")
    return .ok total

/-- It makes no difference when the batches are cut. -/
theorem queryPiecemeal_eq_query [MonadStateOf Browser m] (client : Client)
    (world : Surroundings m S) (listener : Listener m) (limit : Nat) :
    queryPiecemeal client world listener limit = query client world listener limit := by
  rw [queryPiecemeal, query_eq]
  refine bind_congr fun browser => bind_congr fun _ => ?_
  exact congrArg (· >>= _) (listPiecemeal_eq client world listener limit 1 0 browser.filters)

end Browser

/-! ## sessions -/

/-- What is written down of a query. -/
structure Session where
  /-- How many queries run around it. -/
  depth : Nat
  /-- The filters of the browser where the query starts. -/
  filters : List String
  conversations : Conversations
  result : Except Fault Int

/-- The monad of scenarios with the sessions of queries. -/
abbrev Accounted := StateT (List Session) Scenario.Play

namespace Accounted

/-- Add filters. -/
def add (addition : Addition) : Accounted (Except Fault Unit) := do
  let browser ← getThe Browser
  let (answer, added) := addition.perform browser
  set added
  return answer

/-- A query that cuts its batches while it lists them and is overheard, and its session.  The
sessions of queries that the listener runs come before it. -/
def ask (client : Client) (world : Surroundings Accounted S) (listener : Listener Accounted)
    (limit depth : Nat) : Accounted (Except Fault Int) := do
  let filters := (← getThe Browser).filters
  let (result, conversations) ←
    (Browser.queryPiecemeal client world.overheard listener.lift limit).run []
  modifyThe (List Session) (· ++ [⟨depth, filters, conversations, result⟩])
  return result

end Accounted

/-- The depths of the queries that have ended, one after the other. -/
def endedDepths (marks : List Mark) : List Nat :=
  marks.filterMap fun
    | .ended depth => some depth
    | _ => none

namespace Routine

/-- Play a routine around the browser of a client, and write down its queries. -/
def account (client : Client) (world : Surroundings (StateM History) S) (limit : Nat) :
    Routine → Nat → Accounted (Except Fault (List ServerAddress))
  | finish result, _ => return result
  | add addition next, depth => do
    let answer ← Accounted.add addition
    (next answer).account client world limit depth
  | ask cancellable listener next, depth => do
    let result ← Accounted.ask client (if cancellable then world else world.uncancelled).lift
      (fun page => (listener page).account client world limit (depth + 1)) limit depth
    (next result).account client world limit depth
  | look next, depth => do
    (next (← getThe Browser).filters (← getThe History)).account client world limit depth
  | note event next, depth => do
    Scenario.note event
    next.account client world limit depth

end Routine

/-! ## sessions of queries -/

section Accounts

open Scenario Browser

variable {client : Client} {listener : Listener Accounted} {sessions sessions' : List Session}
  {browser browser' : Browser} {history history' : History} {limit : Nat}
  {result : Except Fault Int}

section Played

variable {σ τ α : Type} {upper : StateT σ (StateT τ Play) α} {kept : σ} {below below' : τ} {a : α}

/-- What an action that ensures something gives and leaves where it is played. -/
theorem Ensures.play {pre : σ → Prop} {post : α → σ → Prop} (h : Ensures pre upper post)
    (hkept : pre kept) (below : τ) (browser : Browser) (history : History) :
    post (upper kept below browser history).1.1.1.1 (upper kept below browser history).1.1.1.2 := by
  obtain ⟨sure, hsure⟩ := h kept hkept
  have hplay : (Subtype.val <$> sure) below browser history = upper kept below browser history :=
    congrFun (congrFun (congrFun hsure below) browser) history
  rw [← hplay]
  exact (sure below browser history).1.1.1.property

/-- What an action gives that is the same as one with nothing kept. -/
theorem Correspondence.forgetting_play {action : StateT τ Play α} (h : forgetting.Rel upper action)
    (kept : σ)
    (haction : action below browser history = (((a, below'), browser'), history')) :
    ∃ kept', upper kept below browser history = ((((a, kept'), below'), browser'), history') := by
  have hsame : (Prod.fst <$> upper.run kept) below browser history =
      (((a, below'), browser'), history') :=
    (congrFun (congrFun (congrFun (h kept) below) browser) history).trans haction
  have hmap : (Prod.fst <$> upper.run kept) below browser history =
      ((((upper kept below browser history).1.1.1.1, (upper kept below browser history).1.1.2),
        (upper kept below browser history).1.2), (upper kept below browser history).2) := rfl
  rw [hmap] at hsame
  generalize upper kept below browser history = out at hsame ⊢
  obtain ⟨⟨⟨⟨given, kept'⟩, left⟩, browser''⟩, history''⟩ := out
  cases hsame
  exact ⟨kept', rfl⟩

end Played

/-- The session of a query says what the query talked about, and the query goes its way as if it
was not written down. -/
theorem Accounted.ask_play (depth : Nat) {world : Surroundings Accounted S}
    (h : (query client world listener limit : Accounted _) sessions browser history =
      (((result, sessions'), browser'), history')) :
    ∃ conversations,
      Accounted.ask client world listener limit depth sessions browser history =
        (((result, sessions' ++ [⟨depth, browser.filters, conversations, result⟩]), browser'),
          history') ∧
      Converses client (Filter.batches client.settings.filterBudget browser.filters) conversations
        result := by
  obtain ⟨conversations, hplay⟩ := Correspondence.forgetting_play
    (fst_map_query client world listener limit) [] h
  obtain ⟨rest, hquery, hrest⟩ := query_converses client world listener limit
  have hconverses := (hrest browser).play rfl sessions browser history
  have hstart : query client world.overheard listener.lift limit [] sessions browser history =
      rest browser [] sessions browser history := by
    rw [hquery]
    rfl
  rw [← hstart, hplay] at hconverses
  refine ⟨conversations, ?_, hconverses⟩
  have hget : (getThe Browser : Accounted Browser) sessions browser history =
      (((browser, sessions), browser), history) := rfl
  rw [Accounted.ask, queryPiecemeal_eq_query]
  exact (keep_bind hget).trans ((keep_bind hplay).trans rfl)

end Accounts

/-! ## sessions of routines -/

/-- What has been written down where the marks are left: a session for each query that has ended,
and each of them about the batches of the filters that it started with. -/
structure Recounts (client : Client) (sessions : List Session) (marks : List Mark) : Prop where
  ended : sessions.map Session.depth = endedDepths marks
  converses : ∀ session ∈ sessions, Browser.Converses client
    (Filter.batches client.settings.filterBudget session.filters) session.conversations
    session.result

theorem endedDepths_concat (marks : List Mark) (mark : Mark) :
    endedDepths (marks ++ [mark]) = endedDepths marks ++ endedDepths [mark] :=
  List.filterMap_append

namespace Recounts

variable {client : Client} {sessions : List Session} {marks : List Mark}

/-- Only the end of a query asks for a session. -/
theorem mark {mark : Mark} (h : Recounts client sessions marks)
    (hmark : ∀ depth, mark ≠ .ended depth) : Recounts client sessions (marks ++ [mark]) where
  ended := by
    have hnone : endedDepths [mark] = [] := by
      cases mark <;> simp_all [endedDepths]
    rw [endedDepths_concat, hnone, List.append_nil, h.ended]
  converses := h.converses

/-- A query that ends has its session. -/
theorem concat {session : Session} (h : Recounts client sessions marks)
    (hsession : Browser.Converses client
      (Filter.batches client.settings.filterBudget session.filters) session.conversations
      session.result) :
    Recounts client (sessions ++ [session]) (marks ++ [.ended session.depth]) where
  ended := by
    rw [List.map_append, h.ended, endedDepths_concat]
    rfl
  converses := by
    intro other hother
    obtain hother | hother := List.mem_append.1 hother
    · exact h.converses other hother
    · rw [List.mem_singleton.1 hother]
      exact hsession

end Recounts

namespace Routine

open Scenario

/-- A query with its session is played alike with its marks. -/
theorem ask_alike (client : Client) (world : Surroundings (StateM History) S) (cancellable : Bool)
    {listener : Listener Accounted} {listener' : Listener Marked}
    (hlistener : ∀ page, (sideBySide (Recounts client)).Rel (listener page) (listener' page))
    (limit depth : Nat) :
    (sideBySide (Recounts client)).Rel
      (Accounted.ask client (if cancellable then world else world.uncancelled).lift listener limit
        depth)
      (do
        Marked.mark (.started depth)
        let result ← Browser.query client (surroundings world cancellable) listener' limit
        Marked.mark (.ended depth)
        return result) := by
  have hlift {α : Type} (action : StateM History α) : (sideBySide (Recounts client)).Rel
      (monadLift action : Accounted α) (monadLift action : Marked α) :=
    sideBySide_lift _ (monadLift action)
  have hquery : (sideBySide (Recounts client)).Rel
      (Browser.query client (if cancellable then world else world.uncancelled).lift listener limit)
      (Browser.query client (surroundings world cancellable) listener' limit) :=
    Correspondence.rel_query client (sideBySide_lift _ (getThe Browser))
      (fun change => sideBySide_lift _ (modifyThe Browser change))
      (fun _ => (Surroundings.corresponds_lift hlift _ _).matches)
      (Correspondence.connects_of_rel (hlift _)) hlistener limit
  intro sessions marks browser history h
  obtain ⟨result, sessions', marks', browser', history', hasked, hplayed, h'⟩ :=
    hquery sessions (marks ++ [.started depth]) browser history (h.mark (by simp))
  obtain ⟨conversations, hask, hconverses⟩ := Accounted.ask_play depth hasked
  refine ⟨result, _, _, browser', history', hask, ?_, h'.concat hconverses⟩
  have hstarted : Marked.mark (.started depth) marks browser history =
      ((((), marks ++ [.started depth]), browser), history) := rfl
  exact (keep_bind hstarted).trans ((keep_bind hplayed).trans rfl)

/-- **Routines are played alike with their sessions and with their marks.** -/
theorem account_alike (client : Client) (world : Surroundings (StateM History) S) (limit : Nat)
    (routine : Routine) (depth : Nat) :
    (sideBySide (Recounts client)).Rel (routine.account client world limit depth)
      (routine.play client world limit depth) := by
  induction routine generalizing depth with
  | finish result => exact (sideBySide _).pure _
  | add addition next ih =>
      have hadd : (sideBySide (Recounts client)).Rel (Accounted.add addition)
          (Marked.add depth addition) :=
        fun sessions _ _ _ h => ⟨_, sessions, _, _, _, rfl, rfl, h.mark (by simp)⟩
      exact (sideBySide _).bind hadd fun answer => ih answer depth
  | ask cancellable listener next ihListener ihNext =>
      exact (sideBySide _).bind (ask_alike client world cancellable
        (fun page => ihListener page (depth + 1)) limit depth) fun result => ihNext result depth
  | look next ih =>
      exact (sideBySide _).bind (sideBySide_lift _ (getThe Browser)) fun browser =>
        (sideBySide _).bind (sideBySide_lift _ (getThe History)) fun history =>
          ih browser.filters history depth
  | note event next ih =>
      exact (sideBySide _).bind (sideBySide_lift _ (Scenario.note event)) fun _ => ih depth

/-- **A running query works on the filters it started with.**  Whatever routine is played around a
browser, with queries inside of queries and additions wherever they are accepted: it goes the same
way if its queries cut their batches while they list them and their sessions are written down.
There is a session for each query that has ended, in the order of their ends, and each of them has
talked about the batches of the filters at its start, one after the other: about all of them if it
succeeded, and up to the one that failed if it did not. -/
theorem account_converses (routine : Routine) (client : Client)
    (world : Surroundings (StateM History) S) (limit : Nat) (browser : Browser)
    (history : History) :
    ∃ result sessions marks browser' history',
      routine.play client world limit 0 [] browser history =
        (((result, marks), browser'), history') ∧
      routine.account client world limit 0 [] browser history =
        (((result, sessions), browser'), history') ∧
      sessions.map Session.depth = endedDepths marks ∧
      ∀ session ∈ sessions, Browser.Converses client
        (Filter.batches client.settings.filterBudget session.filters) session.conversations
        session.result := by
  obtain ⟨result, sessions, marks, browser', history', haccount, hplay, hrecounts⟩ :=
    account_alike client world limit routine 0 [] [] browser history ⟨rfl, by simp⟩
  exact ⟨result, sessions, marks, browser', history', hplay, haccount, hrecounts.ended,
    hrecounts.converses⟩

/-- A filter is added while a query runs, after the end of one inside it. -/
theorem account_converses_addingAroundNested :
    ∃ result sessions browser' history',
      addingAroundNested.account ⟨.text "127.0.0.1:27011", .standard⟩
          (lastPages.surroundings lastPages.direct false) 10 0 [] {} [] =
        (((result, sessions), browser'), history') ∧
      browser'.filters = ["\\b\\2"] ∧ sessions.map Session.depth = [1, 0] ∧
      ∀ session ∈ sessions, Browser.Converses ⟨.text "127.0.0.1:27011", .standard⟩
        (Filter.batches Settings.standard.filterBudget session.filters) session.conversations
        session.result := by
  obtain ⟨result, sessions, marks, browser', history', hplay, haccount, hended, hconverses⟩ :=
    addingAroundNested.account_converses ⟨.text "127.0.0.1:27011", .standard⟩
      (lastPages.surroundings lastPages.direct false) 10 {} []
  have hbrowser : browser'.filters = ["\\b\\2"] :=
    (congrArg (fun played => played.1.2.filters) hplay).symm
  have hmarks : [.started 0, .added 1 (.error .filtersLocked) [] [], .started 1, .ended 1,
      .added 1 (.ok ()) [] ["\\b\\2"], .ended 0] = marks :=
    congrArg (fun played => played.1.1.2) hplay
  rw [← hmarks] at hended
  exact ⟨result, sessions, browser', history', haccount, hbrowser, hended, hconverses⟩

end Routine

end ServerBrowser
