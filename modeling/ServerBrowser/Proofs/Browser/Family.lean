import ServerBrowser.Proofs.Browser.Batches
import ServerBrowser.Proofs.Listing.Family
import ServerBrowser.Proofs.Transport.Opening

/-!
# ServerBrowser.Proofs.Browser.Family

Which queries of a browser, over datagram sockets of an operating system, end with a count or with a
fault of the family.  The system fails as systems do, and the listener may do whatever it likes:
fail, change its pages, run queries of its own.  A query stays in the family exactly where each of
its listings does (`query_inFamily_iff`), that is, where

* a socket that the system makes accepts the time limit, and can be connected to the port;
* the listener, unless it fails, leaves a server to continue from of each page that is not the last;
* the clock of the system keeps the delay before the next query.
-/

namespace ServerBrowser

open Scenario

variable {S : Type} {client : Client} {scenario : Scenario} {transport : Transport Play S}
  {cancellable : Bool} {listener : Listener Play} {browser browser' : Browser}
  {history history' : History} {limit number : Nat} {total : Int} {batch : List String}
  {rest : List (List String)}

namespace Browser

/-! ## batch after batch -/

/-- Listings whose steps are not used up are the same with more to take. -/
theorem listBatches_mono {result : Except Fault Int} {batches : List (List String)} (more : Nat)
    (h : listBatches client (scenario.timed transport cancellable) listener limit number
      total batches browser history = ((result, browser'), history'))
    (hresult : result ≠ .error .exhausted) :
    listBatches client (scenario.timed transport cancellable) listener (limit + more) number
      total batches browser history = ((result, browser'), history') := by
  induction batches generalizing number total browser history with
  | nil => exact h
  | cons batch rest ih =>
      obtain ⟨listed, browser₁, history₁, hrun⟩ := exists_play
        (Listing.run ⟨client.master, batch, client.settings⟩
          (scenario.timed transport cancellable) listener limit) browser
        (batchStarted client number batch history)
      cases listed with
      | error fault =>
          cases (listBatches_of_error hrun).symm.trans h
          exact listBatches_of_error (Listing.run_mono more hrun
            fun heq => hresult (congrArg Except.error (Except.error.inj heq)))
      | ok state =>
          rw [listBatches_of_ok hrun] at h
          rw [listBatches_of_ok (Listing.run_mono more hrun (by simp))]
          exact ih h

/-! ## all listings of a query -/

/-- Whether something holds of every listing of a query where it starts: of the first one, and, if
that one ends well, of those that come after it. -/
def Throughout (client : Client) (world : Surroundings Play S) (listener : Listener Play)
    (holds : Listing → Browser → History → Prop) : Nat → List (List String) → Browser → History →
      Prop
  | _, [], _, _ => True
  | number, batch :: rest, browser, history =>
    holds ⟨client.master, batch, client.settings⟩ browser
        (batchStarted client number batch history) ∧
      ∀ limit state browser' history',
        Listing.run ⟨client.master, batch, client.settings⟩ world listener limit browser
            (batchStarted client number batch history) = ((.ok state, browser'), history') →
          Throughout client world listener holds (number + 1) rest browser' history'

/-- The listings of a query end in the family exactly where each of them does. -/
theorem listBatches_isExpected_iff {holds : Listing → Browser → History → Prop}
    (hlisting : ∀ (listing : Listing) browser history,
      (∀ limit, EndsExpectedly (listing.run (scenario.timed transport cancellable) listener
        limit browser history).1.1) ↔ holds listing browser history)
    (number : Nat) (total : Int) (batches : List (List String)) (browser : Browser)
    (history : History) :
    (∀ limit, EndsExpectedly (listBatches client (scenario.timed transport cancellable)
        listener limit number total batches browser history).1.1) ↔
      Throughout client (scenario.timed transport cancellable) listener holds number batches
        browser history := by
  induction batches generalizing number total browser history with
  | nil => exact iff_of_true (fun _ => trivial) trivial
  | cons batch rest ih =>
      rw [Throughout, ← hlisting]
      constructor
      · intro h
        refine ⟨fun limit => ?_, fun limit state browser' history' hrun => ?_⟩
        · obtain ⟨listed, browser₁, history₁, hrun⟩ := exists_play
            (Listing.run ⟨client.master, batch, client.settings⟩
              (scenario.timed transport cancellable) listener limit) browser
            (batchStarted client number batch history)
          rw [hrun]
          cases listed with
          | ok state => trivial
          | error fault =>
              have hall := h limit
              rw [listBatches_of_error hrun] at hall
              exact hall
        · refine (ih (number + 1) (total + state.serversDelivered) browser' history').1
            fun limit' => ?_
          obtain ⟨result, browser₁, history₁, hrest⟩ := exists_play
            (listBatches client (scenario.timed transport cancellable) listener limit'
              (number + 1) (total + state.serversDelivered) rest) browser' history'
          rw [hrest]
          by_cases hresult : result = .error .exhausted
          · exact hresult ▸ .inr rfl
          -- The batch that was listed and those that are left end so with enough steps for both.
          · have hall := h (limit + limit')
            rw [listBatches_of_ok (Listing.run_mono limit' hrun (by simp)), Nat.add_comm,
              listBatches_mono limit hrest hresult] at hall
            exact hall
      · rintro ⟨hfirst, hothers⟩ limit
        obtain ⟨listed, browser₁, history₁, hrun⟩ := exists_play
          (Listing.run ⟨client.master, batch, client.settings⟩
            (scenario.timed transport cancellable) listener limit) browser
          (batchStarted client number batch history)
        cases listed with
        | ok state =>
            rw [listBatches_of_ok hrun]
            exact (ih _ _ _ _).2 (hothers _ _ _ _ hrun) limit
        | error fault =>
            have hends := hfirst limit
            rw [hrun] at hends
            rw [listBatches_of_error hrun]
            exact hends

/-! ## queries -/

/-- A query ends with the fault with which its listings end. -/
theorem query_endsExpectedly_iff :
    EndsExpectedly ((query client (scenario.timed transport cancellable) listener limit :
        Play _) browser history).1.1 ↔
      EndsExpectedly (listBatches client (scenario.timed transport cancellable) listener
        limit 1 0 (Filter.batches client.settings.filterBudget browser.filters)
        { browser with querying := true } history).1.1 := by
  obtain ⟨result, browser', history', hlist⟩ := exists_play
    (listBatches client (scenario.timed transport cancellable) listener limit 1 0
      (Filter.batches client.settings.filterBudget browser.filters))
    { browser with querying := true } history
  rw [query_play hlist, hlist]

end Browser

/-- What keeps a listing over datagram sockets in the family: a socket that the system makes accepts
its time limit and can be connected to its port, and the listing goes on after each delivery on its
way. -/
structure Listing.IsSafe (listing : Listing) (scenario : Scenario) (cancellable : Bool)
    (listener : Listener Play) (browser : Browser) (history : History) : Prop where
  accepts : DatagramSocket.Accepts scenario listing.master listing.settings.timeout
    (history ++ [.logged listing.startRecord])
  goesOn : listing.GoesOnThroughout scenario cancellable scenario.datagram listener browser history

/-- What keeps a query over datagram sockets in the family: each of its listings is safe. -/
def Client.IsSafe (client : Client) (scenario : Scenario) (cancellable : Bool)
    (listener : Listener Play) (browser : Browser) (history : History) : Prop :=
  Browser.Throughout client (scenario.timed scenario.datagram cancellable) listener
    (fun listing => listing.IsSafe scenario cancellable listener) 1
    (Filter.batches client.settings.filterBudget browser.filters)
    { browser with querying := true } history

namespace Browser

/-- Over datagram sockets of a system, the listings that stay in the family are the safe ones. -/
theorem run_isExpected_iff_isSafe (hsystem : scenario.OfSystem) (listing : Listing)
    (browser : Browser) (history : History) :
    (∀ limit, EndsExpectedly (listing.run (scenario.timed scenario.datagram cancellable)
        listener limit browser history).1.1) ↔
      listing.IsSafe scenario cancellable listener browser history := by
  have hopens : EndsExpectedly (listing.trace (scenario.timed scenario.datagram cancellable)
      listener 0 browser history).1.1 ↔ DatagramSocket.Accepts scenario listing.master
        listing.settings.timeout (history ++ [.logged listing.startRecord]) := by
    obtain ⟨result, browser', history', hconnect, htrace⟩ := Listing.trace_zero listing
      (scenario.timed scenario.datagram cancellable) listener browser history
    have hplay : (DatagramSocket.connect (scenario.system : SystemSockets Play Nat) Scenario.log
        listing.master listing.settings.timeout browser
        (history ++ [.logged listing.startRecord])).1.1 = result :=
      congrArg (·.1.1) ((play_bind (log_play listing.startRecord)).symm.trans hconnect)
    rw [htrace, ← DatagramSocket.connect_isExpected_iff hsystem listing.master
      listing.settings.timeout browser, hplay]
    cases result <;> rfl
  rw [Listing.run_isExpected_iff (DatagramSocket.inFamily_datagram hsystem), hopens]
  exact ⟨fun h => ⟨h.1, h.2⟩, fun h => ⟨h.accepts, h.goesOn⟩⟩

/-- What holds of every listing of a client holds throughout a query. -/
theorem throughout_of_forall {world : Surroundings Play S}
    {holds : Listing → Browser → History → Prop}
    (h : ∀ batch browser history, holds ⟨client.master, batch, client.settings⟩ browser history)
    (number : Nat) (batches : List (List String)) (browser : Browser) (history : History) :
    Throughout client world listener holds number batches browser history := by
  induction batches generalizing number browser history with
  | nil => trivial
  | cons batch rest ih => exact ⟨h _ _ _, fun _ _ _ _ _ => ih _ _ _⟩

/-- **Over every system** a query ends with a count or with a fault of the family where sockets
accept the time limit and the port, the clock keeps the delay, and the listener leaves a server to
continue from of every page that can arrive. -/
theorem isSafe_of_leavesCursors (hsystem : scenario.OfSystem)
    (haccepts : ∀ host port, client.master.split = .ok (host, port) →
      Transport.limitFault? client.settings.timeout = none ∧ Transport.portFault? port = none)
    (hkept : Clock.system.delayFault? cancellable client.settings.retryDelay = none)
    (hlistener : listener.LeavesCursors) :
    client.IsSafe scenario cancellable listener browser history :=
  throughout_of_forall (fun _ _ _ =>
    ⟨fun host port hsplit _ => haccepts host port hsplit,
      Listing.goesOnThroughout_of_leavesCursors (DatagramSocket.inFamily_datagram hsystem)
        hlistener hkept⟩) 1 _ _ history

/-- A system in which nothing fails, and which answers with one packet. -/
def answering (packet : List UInt8) : Scenario where
  create _ := .ok ()
  connect _ := .ok ()
  send _ := .ok ()
  receive _ := .ok packet
  isCancelled _ := false

theorem ofSystem_answering {packet : List UInt8}
    (h : packet.length ≤ DatagramSocket.receiveLimit) : (answering packet).OfSystem where
  create _ _ hfault := by cases hfault
  connect _ _ hfault := by cases hfault
  send _ _ hfault := by cases hfault
  receive _ _ hfault := by cases hfault
  size _ _ hpacket := by
    cases hpacket
    exact h

end Browser

end ServerBrowser
