import ServerBrowser.Proofs.Browser.Lock
import ServerBrowser.Proofs.Correspondence

/-!
# ServerBrowser.Proofs.Browser.Residue

What queries leave behind in a browser: its filters, and nothing else.

A scenario may be put after anything that has happened (`Scenario.after`): it then answers as if
that had not happened, and the sockets that were made before are not counted.  A query over such a
scenario goes as it would from the beginning (`Browser.query_afterwards`), so it does not matter
what was before, only which filters the browser has.

A routine that is over, whatever became of its queries, therefore leaves a browser to which filters
can be added, and whose next query goes as that of a new browser with the same filters.  The filters
are those that were there before if no call in between has added any
(`Routine.leaves_no_residue`).
-/

namespace ServerBrowser

/-! ## one row of events after another -/

/-- The same event, with other numbers for the sockets. -/
def Event.renumber (number : Nat → Nat) : Event → Event
  | .opened socket master timeout => .opened (number socket) master timeout
  | .created socket => .created (number socket)
  | .limited socket seconds => .limited (number socket) seconds
  | .connected socket host port => .connected (number socket) host port
  | .sent socket packet => .sent (number socket) packet
  | .awaited socket size => .awaited (number socket) size
  | .received socket packet => .received (number socket) packet
  | .closed socket => .closed (number socket)
  | event => event

namespace History

/-- What has happened, and after it something else, whose sockets are numbered on. -/
def followedBy (past since : History) : History :=
  past ++ since.map (Event.renumber (past.socketCount + ·))

/-- What has happened since then, with the sockets numbered from the beginning. -/
def since (history past : History) : History :=
  (history.drop past.length).map (Event.renumber (· - past.socketCount))

variable (past more : History)

theorem followedBy_nil : past.followedBy [] = past :=
  List.append_nil past

theorem followedBy_concat (event : Event) :
    past.followedBy (more ++ [event]) =
      past.followedBy more ++ [event.renumber (past.socketCount + ·)] := by
  simp [followedBy]

theorem since_followedBy : (past.followedBy more).since past = more := by
  have hback : ∀ event : Event,
      (event.renumber (past.socketCount + ·)).renumber (· - past.socketCount) = event := by
    intro event
    cases event <;> simp [Event.renumber]
  rw [since, followedBy, List.drop_left, List.map_map]
  exact (List.map_congr_left fun event _ => hback event).trans (List.map_id more)

theorem socketCount_followedBy :
    (past.followedBy more).socketCount = past.socketCount + more.socketCount := by
  rw [followedBy, socketCount, List.countP_append, List.countP_map]
  refine congrArg (past.socketCount + ·) (List.countP_congr fun event _ => ?_)
  cases event <;> simp [Event.renumber]

end History

namespace Scenario

variable {α β : Type} {past : History}

/-- The scenario that begins after what has happened before. -/
def after (scenario : Scenario) (past : History) : Scenario where
  create history := scenario.create (history.since past)
  connect history := scenario.connect (history.since past)
  send history := scenario.send (history.since past)
  receive history := scenario.receive (history.since past)
  isCancelled history := scenario.isCancelled (history.since past)

/-- An action after what has happened before, of which it knows nothing. -/
def afterwards (past : History) (action : Play α) : Play α := fun browser history =>
  ((action browser (history.since past)).1,
    past.followedBy (action browser (history.since past)).2)

/-- The correspondence of actions after what has happened before with actions from the beginning. -/
def shifted (past : History) : Correspondence Play Play where
  Rel first second := ∀ browser more, first browser (past.followedBy more) =
    ((second browser more).1, past.followedBy (second browser more).2)
  pure a browser more := rfl
  bind := by
    intro α β first second next next' hfirst hnext browser more
    rw [play_bind (hfirst browser more), hnext]
    rfl

theorem shifted_afterwards (action : Play α) :
    (shifted past).Rel (afterwards past action) action := by
  intro browser more
  rw [afterwards, History.since_followedBy]

theorem shifted_note (event : Event) :
    (shifted past).Rel (note (event.renumber (past.socketCount + ·)) : Play Unit) (note event) := by
  intro browser more
  show (((), browser), past.followedBy more ++ [event.renumber (past.socketCount + ·)]) =
    (((), browser), past.followedBy (more ++ [event]))
  rw [History.followedBy_concat]

theorem shifted_perform (event : Event) (answer : History → α) :
    (shifted past).Rel
      (perform (event.renumber (past.socketCount + ·)) fun history => answer (history.since past) :
        Play α)
      (perform event answer) := by
  refine (shifted past).bind (shifted_note event) fun _ browser more => ?_
  show ((answer ((past.followedBy more).since past), browser), past.followedBy more) =
    ((answer more, browser), past.followedBy more)
  rw [History.since_followedBy]

/-- A socket after what has happened before, and its counterpart from the beginning. -/
def Later (past : History) (socket socket' : Nat) : Prop :=
  socket = past.socketCount + socket'

theorem shifted_receive (scenario : Scenario) (socket : Nat) :
    (shifted past).Rel
      ((scenario.after past).direct.receive (past.socketCount + socket) : Play _)
      (scenario.direct.receive socket) := by
  refine (shifted past).bind (shifted_perform (.awaited socket none) scenario.receive)
    fun result => ?_
  cases result with
  | error fault => exact (shifted past).pure _
  | ok packet =>
      exact (shifted past).bind (shifted_note (.received socket packet)) fun _ =>
        (shifted past).pure _

/-- **After what has happened before a scenario does what it does from the beginning.** -/
theorem shifted_world (scenario : Scenario) (past : History) (cancellable : Bool)
    (listing : Listing) :
    ((scenario.after past).world cancellable).Matches (shifted past) listing (Later past)
      (scenario.world cancellable) where
  send := by
    rintro _ socket rfl cursor packet -
    exact shifted_perform (.sent socket packet) scenario.send
  receive := by
    rintro _ socket rfl
    exact shifted_receive scenario socket
  close := by
    rintro _ socket rfl
    exact shifted_note (.closed socket)
  sleep := shifted_perform (.slept listing.settings.retryDelay) fun _ => Except.ok ()
  cancel := by
    cases cancellable with
    | false => exact .none
    | true =>
        exact .some ⟨shifted_perform .checked scenario.isCancelled,
          shifted_perform (.waited listing.settings.retryDelay) fun history =>
            Clock.patient.wait listing.settings.retryDelay (scenario.isCancelled history)⟩
  log record := shifted_note (.logged record)

/-- A socket that is made later is counted on from those that were made before. -/
theorem shifted_connect (scenario : Scenario) (past : History) (master : MasterAddress)
    (timeout : Binary64) :
    (shifted past).Connects (Later past)
      ((scenario.after past).direct.connect master timeout : Play _)
      (scenario.direct.connect master timeout) := by
  intro α next next' hfault hsocket browser more
  have hconnect : ∀ (scenario : Scenario) (history : History),
      (scenario.direct.connect master timeout : Play _) browser history =
        (((scenario.connect (history ++ [.opened history.socketCount master timeout])).map
          fun _ => history.socketCount, browser),
            history ++ [.opened history.socketCount master timeout]) := fun _ _ => rfl
  have hopened : past.followedBy more ++
      [.opened (past.followedBy more).socketCount master timeout] =
        past.followedBy (more ++ [.opened more.socketCount master timeout]) := by
    rw [History.followedBy_concat, History.socketCount_followedBy]
    rfl
  rw [play_bind (hconnect _ _), play_bind (hconnect _ _), hopened]
  -- The scenario answers alike, and the socket that it gives is numbered on.
  show next ((scenario.connect ((past.followedBy _).since past)).map _) _ _ = _
  rw [History.since_followedBy, History.socketCount_followedBy]
  cases scenario.connect (more ++ [.opened more.socketCount master timeout]) with
  | error fault => exact hfault fault browser _
  | ok => exact hsocket _ _ rfl browser _

end Scenario

open Scenario

/-- **A query after whatever has happened goes as it would from the beginning.** -/
theorem Browser.query_afterwards (client : Client) (scenario : Scenario) (cancellable : Bool)
    (listener : Listener Play) (limit : Nat) (browser : Browser) (past : History) :
    ∃ result browser' since,
      query client ((scenario.after past).world cancellable)
          (fun page => afterwards past (listener page)) limit browser past =
        ((result, browser'), past.followedBy since) ∧
      query client (scenario.world cancellable) listener limit browser [] =
        ((result, browser'), since) := by
  have hquery : (shifted past).Rel
      (query client ((scenario.after past).world cancellable)
        (fun page => afterwards past (listener page)) limit)
      (query client (scenario.world cancellable) listener limit) :=
    Correspondence.rel_query client (fun _ _ => rfl) (fun _ _ _ => rfl)
      (fun batch => shifted_world scenario past cancellable ⟨client.master, batch, client.settings⟩)
      (shifted_connect scenario past client.master client.settings.timeout)
      (fun page => shifted_afterwards (listener page)) limit
  have hplayed := hquery browser []
  rw [History.followedBy_nil] at hplayed
  exact ⟨_, _, _, hplayed, rfl⟩

/-! ## what a routine leaves -/

/-- Whether no call that adds filters has changed any. -/
def AddsNothing (marks : List Mark) : Prop :=
  ∀ depth answer old new, .added depth answer old new ∈ marks → new = old

/-- Whether marks were left since then, and the filters are what they were if nothing was added. -/
def Leaves (marks : List Mark) (filters : List String) (marks' : List Mark) (browser : Browser) :
    Prop :=
  ∃ more, marks' = marks ++ more ∧ (AddsNothing more → browser.filters = filters)

namespace Leaves

variable {marks marks' : List Mark} {filters : List String} {browser : Browser}

theorem refl (marks : List Mark) (browser : Browser) : Leaves marks browser.filters marks browser :=
  ⟨[], (List.append_nil marks).symm, fun _ => rfl⟩

/-- A mark of a query changes no filters. -/
theorem concat {mark : Mark} {browser' : Browser} (h : Leaves marks filters marks' browser)
    (hsame : browser'.filters = browser.filters) :
    Leaves marks filters (marks' ++ [mark]) browser' := by
  obtain ⟨more, rfl, hmore⟩ := h
  refine ⟨more ++ [mark], List.append_assoc .., fun hnothing => hsame.trans (hmore ?_)⟩
  exact fun depth answer old new hadded => hnothing depth answer old new (by simp [hadded])

/-- A call that adds nothing changes none either. -/
theorem add (h : Leaves marks filters marks' browser) (depth : Nat) (addition : Addition) :
    Leaves marks filters
      (marks' ++ [.added depth (addition.perform browser).1 browser.filters
        (addition.perform browser).2.filters]) (addition.perform browser).2 := by
  obtain ⟨more, rfl, hmore⟩ := h
  refine ⟨_, List.append_assoc .., fun hnothing => ?_⟩
  have hsame : (addition.perform browser).2.filters = browser.filters :=
    hnothing _ _ _ _ (List.mem_append_right more (List.mem_singleton_self _))
  refine hsame.trans (hmore fun depth answer old new hadded => ?_)
  exact hnothing depth answer old new (List.mem_append_left _ hadded)

end Leaves

variable {S : Type}

/-- **A query whose listener adds nothing leaves the filters as they were,** whatever the listener
does besides, and whatever the listeners of its own queries do. -/
theorem Routine.leaves_query (client : Client) (world : Surroundings (StateM History) S)
    (limit depth : Nat) (cancellable : Bool) (listener : List ServerAddress → Routine)
    (marks : List Mark) (browser : Browser) (history : History) :
    ∃ result more browser' history',
      Browser.query client (Routine.surroundings world cancellable)
          (fun page => (listener page).play client world limit (depth + 1)) limit marks browser
          history =
        (((result, marks ++ more), browser'), history') ∧
      (AddsNothing more → browser'.filters = browser.filters) := by
  have hlistener (page : List ServerAddress) := (listener page).leads_play client world limit
    (fun _ => Leaves marks browser.filters) (fun depth _ _ addition h => h.add depth addition)
    (fun _ _ _ h => h.concat rfl) (fun _ _ _ h => h.concat rfl) (depth + 1)
  have hquery : Marked.Leads (Leaves marks browser.filters) (Leaves marks browser.filters)
      (Browser.query client (Routine.surroundings world cancellable)
        (fun page => (listener page).play client world limit (depth + 1)) limit) :=
    Marked.leads_query client world cancellable hlistener limit (fun _ _ h => h) (fun _ _ h => h)
  obtain ⟨⟨result, marks'⟩, browser', history', hplay⟩ := exists_play
    (Browser.query client (Routine.surroundings world cancellable)
      (fun page => (listener page).play client world limit (depth + 1)) limit marks) browser history
  have hleaves := hquery marks browser history (Leaves.refl marks browser)
  rw [hplay] at hleaves
  obtain ⟨more, rfl, hfilters⟩ := hleaves
  exact ⟨result, more, browser', history', hplay, hfilters⟩

/-- **A query that is over leaves nothing behind.**  Whatever runs around a browser that runs no
query, with queries that succeed, fail anywhere, are cancelled or are nested, and with whatever
their listeners do, whenever no query runs any more:

* filters can be added;
* the next query, over any sockets and with any listener, gives and does the same as that of a new
  browser with the filters that there are;
* the filters that there are before a query are there after it if no call has added any. -/
theorem Routine.leaves_no_residue (routine : Routine) (client : Client)
    (world : Surroundings (StateM History) S) (limit : Nat) (browser : Browser) (history : History)
    (hidle : browser.querying = false) {result : Except Fault (List ServerAddress)}
    {marks : List Mark} {browser' : Browser} {past : History}
    (hplay : routine.play client world limit 0 [] browser history =
      (((result, marks), browser'), past)) :
    (∀ tokens, browser'.addFilters tokens =
      .ok { browser' with filters := browser'.filters ++ tokens }) ∧
    (∀ (sockets : Scenario) (cancellable : Bool) (listener : Listener Play) (steps : Nat),
      ∃ outcome browser'' since,
        Browser.query client ((sockets.after past).world cancellable)
            (fun page => afterwards past (listener page)) steps browser' past =
          ((outcome, browser''), past.followedBy since) ∧
        Browser.query client (sockets.world cancellable) listener steps
            { filters := browser'.filters } [] =
          ((outcome, browser''), since)) ∧
    ∀ (cancellable : Bool) (listener : List ServerAddress → Routine),
      ∃ outcome more browser'' later,
        Browser.query client (Routine.surroundings world cancellable)
            (fun page => (listener page).play client world limit 1) limit marks browser' past =
          (((outcome, marks ++ more), browser''), later) ∧
        ((∀ depth answer old new, .added depth answer old new ∈ more → new = old) →
          browser''.filters = browser'.filters) := by
  have hguarded := routine.guarded_play client world limit browser history hidle
  rw [hplay] at hguarded
  have hidle' : browser'.querying = false := hguarded.querying_eq_false
  -- A browser is its filters and the lock on them, so one without the lock is as good as new.
  have hnew : browser' = { filters := browser'.filters } := by rw [← hidle']
  refine ⟨fun tokens => ?_, fun sockets cancellable listener steps => ?_,
    fun cancellable listener => ?_⟩
  · rw [Browser.addFilters, if_neg (by simp [hidle'])]
  · rw [← hnew]
    exact Browser.query_afterwards client sockets cancellable listener steps browser' past
  · exact leaves_query client world limit 0 cancellable listener marks browser' past

/-- After a query with another one inside, of which one filter is left, the next query goes as that
of a new browser with this filter. -/
theorem Routine.leaves_no_residue_addingAroundNested :
    ({} : Browser).querying = false ∧
      ∃ result marks browser' past,
        addingAroundNested.play ⟨.text "127.0.0.1:27011", .standard⟩
            (lastPages.surroundings lastPages.direct false) 10 0 [] {} [] =
          (((result, marks), browser'), past) ∧
        browser'.filters = ["\\b\\2"] ∧
        browser'.addFilters ["\\c\\3"] = .ok { browser' with filters := ["\\b\\2", "\\c\\3"] } ∧
        ∃ outcome browser'' since,
          Browser.query ⟨.text "127.0.0.1:27011", .standard⟩ ((lastPages.after past).world true)
              (fun page => afterwards past (pure (.ok page))) 10 browser' past =
            ((outcome, browser''), past.followedBy since) ∧
          Browser.query ⟨.text "127.0.0.1:27011", .standard⟩ (lastPages.world true)
              (fun page => pure (.ok page)) 10 { filters := ["\\b\\2"] } [] =
            ((outcome, browser''), since) := by
  obtain ⟨hadds, hnext, -⟩ := addingAroundNested.leaves_no_residue
    ⟨.text "127.0.0.1:27011", .standard⟩ (lastPages.surroundings lastPages.direct false) 10 {} []
    rfl rfl
  exact ⟨rfl, _, _, _, _, rfl, rfl, hadds ["\\c\\3"],
    hnext lastPages true (fun page => pure (.ok page)) 10⟩

end ServerBrowser
