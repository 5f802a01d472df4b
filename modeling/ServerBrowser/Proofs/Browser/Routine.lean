import ServerBrowser.Proofs.Discipline
import ServerBrowser.Scenario

/-!
# ServerBrowser.Proofs.Browser.Routine

What may run around a browser: routines that add filters, run queries, look at what there is and
leave events, in any order and depending on everything that came before.  A listener is a routine
for each page, and the listener of a query within a query is one again, to any depth.  Faults are
values to a routine, so it can go on after a query or an addition that failed.

A routine that is played leaves marks: of each query that starts and ends, and of each call that
adds filters, with its answer and the filters before and after it.
-/

namespace ServerBrowser

/-! ## calls that add filters -/

/-- One call that adds filters. -/
inductive Addition where
  | filters (tokens : List String)
  | filter (key : String) (value : Json)
  | appIds (ids : List AppId)

namespace Addition

/-- A call that fails leaves the browser as it is. -/
def settle (browser : Browser) : Except Fault Browser → Except Fault Unit × Browser
  | .error fault => (.error fault, browser)
  | .ok added => (.ok (), added)

/-- The answer of a call, and the browser it leaves. -/
def perform (browser : Browser) : Addition → Except Fault Unit × Browser
  | .filters tokens => settle browser (browser.addFilters tokens)
  | .filter key value => settle browser (browser.addFilter key value)
  | .appIds ids => browser.addAppIds ids

end Addition

/-! ## routines -/

/-- What is to be known afterwards of queries and additions.  Each mark says how many queries run
around it. -/
inductive Mark where
  | started (depth : Nat)
  | ended (depth : Nat)
  /-- A call that adds filters, with the filters before and after it. -/
  | added (depth : Nat) (answer : Except Fault Unit) (old new : List String)

/-- The monad of scenarios with marks. -/
abbrev Marked := StateT (List Mark) Scenario.Play

namespace Marked

/-- Leave a mark. -/
def mark (mark : Mark) : Marked Unit :=
  modifyThe (List Mark) (· ++ [mark])

/-- Add filters. -/
def add (depth : Nat) (addition : Addition) : Marked (Except Fault Unit) := do
  let browser ← getThe Browser
  let (answer, added) := addition.perform browser
  set added
  mark (.added depth answer browser.filters added.filters)
  return answer

end Marked

/-- What runs around a browser, and what a listener does with a page.  What comes next depends on
what the last thing gave. -/
inductive Routine where
  | finish (result : Except Fault (List ServerAddress))
  | add (addition : Addition) (next : Except Fault Unit → Routine)
  /-- A query, with the cancel signal or without it. -/
  | ask (cancellable : Bool) (listener : List ServerAddress → Routine)
    (next : Except Fault Int → Routine)
  /-- A look at the filters and at what has happened. -/
  | look (next : List String → History → Routine)
  | note (event : Event) (next : Routine)

namespace Routine

/-- The world of a query. -/
def surroundings {S : Type} (world : Surroundings (StateM History) S) (cancellable : Bool) :
    Surroundings Marked S :=
  (if cancellable then world else world.uncancelled).lift

/-- Play a routine around the browser of a client while so many queries run, in a world that knows
nothing but its history. -/
def play {S : Type} (client : Client) (world : Surroundings (StateM History) S) (limit : Nat) :
    Routine → Nat → Marked (Except Fault (List ServerAddress))
  | finish result, _ => return result
  | add addition next, depth => do
    let answer ← Marked.add depth addition
    (next answer).play client world limit depth
  | ask cancellable listener next, depth => do
    Marked.mark (.started depth)
    let result ← Browser.query client (surroundings world cancellable)
      (fun page => (listener page).play client world limit (depth + 1)) limit
    Marked.mark (.ended depth)
    (next result).play client world limit depth
  | look next, depth => do
    (next (← getThe Browser).filters (← getThe History)).play client world limit depth
  | note event next, depth => do
    Scenario.note event
    next.play client world limit depth

/-- The marks of a routine that is played while no query runs. -/
def marks {S : Type} (client : Client) (world : Surroundings (StateM History) S) (limit : Nat)
    (browser : Browser) (history : History) (routine : Routine) : List Mark :=
  (routine.play client world limit 0 [] browser history).1.1.2

end Routine

/-! ## what routines keep -/

namespace Marked

variable {α β : Type} {pre mid post : List Mark → Browser → Prop}

/-- Whether an action leads from where `pre` holds to where `post` does. -/
def Leads (pre post : List Mark → Browser → Prop) (action : Marked α) : Prop :=
  ∀ marks browser history, pre marks browser →
    post (action marks browser history).1.1.2 (action marks browser history).1.2

theorem Leads.pure (a : α) : Leads pre pre (Pure.pure a : Marked α) :=
  fun _ _ _ h => h

theorem Leads.bind {action : Marked α} {next : α → Marked β} (h : Leads pre mid action)
    (hnext : ∀ a, Leads mid post (next a)) : Leads pre post (action >>= next) :=
  fun marks browser history hpre => hnext _ _ _ _ (h marks browser history hpre)

/-- The actions that lead from where something holds to where it holds again. -/
def keeping (holds : List Mark → Browser → Prop) : Discipline Marked where
  Follows := Leads holds holds
  pure := Leads.pure
  bind := Leads.bind

/-- The world keeps whatever it does not know of. -/
theorem follows_surroundings {S : Type} (world : Surroundings (StateM History) S)
    (cancellable : Bool) (holds : List Mark → Browser → Prop) :
    (Routine.surroundings world cancellable).Follows (keeping holds) where
  connect _ _ _ _ _ h := h
  send _ _ _ _ _ h := h
  receive _ _ _ _ h := h
  close _ _ _ _ h := h
  sleep _ _ _ _ h := h
  isSet signal hsignal _ _ _ h := by
    obtain ⟨signal, -, rfl⟩ := Option.map_eq_some_iff.1 hsignal
    exact h
  wait signal hsignal _ _ _ _ h := by
    obtain ⟨signal, -, rfl⟩ := Option.map_eq_some_iff.1 hsignal
    exact h
  log _ _ _ _ h := h

/-- A query keeps what its listener keeps, from setting its lock to clearing it. -/
theorem leads_query {S : Type} {holds : List Mark → Browser → Prop} (client : Client)
    (world : Surroundings (StateM History) S) (cancellable : Bool) {listener : Listener Marked}
    (hlistener : ∀ page, Leads holds holds (listener page)) (limit : Nat)
    (hset : ∀ marks browser, pre marks browser → holds marks { browser with querying := true })
    (hclear : ∀ marks browser, holds marks browser →
      post marks { browser with querying := false }) :
    Leads pre post
      (Browser.query client (Routine.surroundings world cancellable) listener limit) := by
  have hworld := follows_surroundings world cancellable
  have hget : Leads pre pre (getThe Browser : Marked Browser) := fun _ _ _ h => h
  have hlock : Leads pre holds (modifyThe Browser fun b => { b with querying := true }) :=
    fun marks browser _ h => hset marks browser h
  have hunlock : Leads holds post (modifyThe Browser fun b => { b with querying := false }) :=
    fun marks browser _ h => hclear marks browser h
  have hlist (batches : List (List String)) : Leads holds holds (Browser.listBatches client
      (Routine.surroundings world cancellable) listener limit 1 0 batches) :=
    Discipline.follows_listBatches (D := keeping holds) client (hworld holds) hlistener limit 1 0
      batches
  refine hget.bind fun browser => hlock.bind fun _ => (hlist _).bind fun result =>
    hunlock.bind fun _ => ?_
  cases result with
  | error fault => exact .pure _
  | ok total => exact Leads.bind ((hworld post).log _) fun _ => .pure _

end Marked

namespace Routine

open Marked

/-- **Induction over routines.**  What additions keep, and what starts and ends of queries carry to
the next depth and back, holds after every routine. -/
theorem leads_play {S : Type} (client : Client) (world : Surroundings (StateM History) S)
    (limit : Nat) (holds : Nat → List Mark → Browser → Prop)
    (hadd : ∀ depth marks browser addition, holds depth marks browser →
      holds depth (marks ++ [.added depth (Addition.perform browser addition).1 browser.filters
        (Addition.perform browser addition).2.filters]) (Addition.perform browser addition).2)
    (hstart : ∀ depth marks browser, holds depth marks browser →
      holds (depth + 1) (marks ++ [.started depth]) { browser with querying := true })
    (hend : ∀ depth marks browser, holds (depth + 1) marks browser →
      holds depth (marks ++ [.ended depth]) { browser with querying := false })
    (routine : Routine) (depth : Nat) :
    Leads (holds depth) (holds depth) (routine.play client world limit depth) := by
  induction routine generalizing depth with
  | finish result => exact .pure _
  | add addition next ih =>
      have hcall : Leads (holds depth) (holds depth) (Marked.add depth addition) :=
        fun marks browser _ h => hadd depth marks browser addition h
      exact hcall.bind fun answer => ih answer depth
  | ask cancellable listener next ihListener ihNext =>
      have hstarted : Leads (holds depth)
          (fun marks browser => holds (depth + 1) marks { browser with querying := true })
          (mark (.started depth)) := fun marks browser _ h => hstart depth marks browser h
      have hquery := leads_query client world cancellable
        (fun page => ihListener page (depth + 1)) limit (fun _ _ h => h) (hend depth)
      have hended : Leads (fun marks browser => holds depth (marks ++ [.ended depth]) browser)
          (holds depth) (mark (.ended depth)) := fun _ _ _ h => h
      exact hstarted.bind fun _ => hquery.bind fun result => hended.bind fun _ =>
        ihNext result depth
  | look next ih =>
      have hget : Leads (holds depth) (holds depth) (getThe Browser : Marked Browser) :=
        fun _ _ _ h => h
      have hhistory : Leads (holds depth) (holds depth) (getThe History : Marked History) :=
        fun _ _ _ h => h
      exact hget.bind fun browser => hhistory.bind fun history =>
        ih browser.filters history depth
  | note event next ih =>
      have hnote : Leads (holds depth) (holds depth) (Scenario.note event : Marked Unit) :=
        fun _ _ _ h => h
      exact hnote.bind fun _ => ih depth

end Routine

end ServerBrowser
