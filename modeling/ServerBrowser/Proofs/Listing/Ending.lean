import ServerBrowser.Proofs.Cancellation
import ServerBrowser.Proofs.Listing.Passage
import ServerBrowser.Proofs.Listing.Requests

/-!
# ServerBrowser.Proofs.Listing.Ending

How a listing with a cancel signal comes to its end.  `Fails` names the faults that it may end with,
each with what must have happened last: the signal was found to be set, the packet that was received
breaks the format, the listener failed with the page of that packet, or an exchange was lost, while
no packet has been received or after as many attempts as there are.  The faults are those that the
scenario or the listener has answered with there.

`Tally` keeps account of the attempts from passage to passage: those since the last packet and those
that are left are as many as the settings allow.
-/

namespace ServerBrowser

open Scenario

namespace History

variable {socket : Nat} {history more : History}

theorem traffic_append (socket : Nat) (history more : History) :
    traffic socket (history ++ more) =
      more.foldl (Traffic.add socket) (traffic socket history) := by
  simp [traffic]

/-- Asides are no traffic. -/
theorem Asides.quiet (h : more.Asides) : Quiet socket more :=
  h.all

/-- To hand on a page makes no difference to the packets. -/
theorem traffic_paged_asides (socket : Nat) (history : History) (page : List ServerAddress)
    {asides : History} (h : asides.Asides) :
    traffic socket (history ++ .paged page :: asides) =
      { traffic socket history with pages := (traffic socket history).pages ++ [page] } := by
  rw [List.append_cons, traffic_append_quiet h.quiet, traffic_paged]

end History

/-! ## what happened last -/

/-- Whether an event may come when a listing is over: its socket is closed, or the log is written. -/
def Event.isParting : Event → Bool
  | .closed _ | .logged _ => true
  | _ => false

/-- Whether the last that happened is `tail`, and it came after `front`: nothing has come after it
but what may come when a listing is over. -/
def History.EndsIn (since front tail : History) : Prop :=
  ∃ rest, since = front ++ tail ++ rest ∧ ∀ event ∈ rest, event.isParting = true

namespace History

variable {since front tail more : History}

theorem endsIn_append (front tail : History) : EndsIn (front ++ tail) front tail :=
  ⟨[], (List.append_nil _).symm, by simp⟩

theorem EndsIn.append (h : since.EndsIn front tail)
    (hmore : ∀ event ∈ more, event.isParting = true) : EndsIn (since ++ more) front tail := by
  obtain ⟨rest, rfl, hrest⟩ := h
  exact ⟨rest ++ more, List.append_assoc .., List.forall_mem_append.2 ⟨hrest, hmore⟩⟩

end History

/-- Whether the last that happened is the loss of a packet or of its answer: sending it, or waiting
for the answer, was answered with the fault. -/
inductive Scenario.Lost (scenario : Scenario) (socket : Nat) (past since : History)
    (fault : Fault) : Prop
  | unsent {front : History} {packet : List UInt8} (last : since.EndsIn front [.sent socket packet])
    (answer : scenario.send (past ++ front ++ [.sent socket packet]) = .error fault)
  | unheard {front : History} (last : since.EndsIn front [.awaited socket none])
    (answer : scenario.receive (past ++ front ++ [.awaited socket none]) = .error fault)

namespace Listing

variable {listing : Listing} {scenario : Scenario} {listener : Listener Play} {socket : Nat}
  {past since more : History} {state next : State} {fault : Fault}

/-- Whether the page of the packet that was received last is the one that was handed on last. -/
def InHand (traffic : Traffic) (page : Page) : Prop :=
  LastPage traffic.received page ∧ traffic.pages.getLast? = some page.servers

/-- The faults that a listing may end with after `past` and, since it started, `since`. -/
inductive Fails (listing : Listing) (scenario : Scenario) (listener : Listener Play) (socket : Nat)
    (past since : History) : Fault → Prop
  /-- The signal is found to be set, by looking at it or waiting for it. -/
  | cancelled {front : History} {event : Event} (last : since.EndsIn front [event])
    (looks : event = .checked ∨ event = .waited listing.settings.retryDelay)
    (set : scenario.isCancelled (past ++ front ++ [event]) = true) :
    Fails listing scenario listener socket past since .queryCancelled
  /-- The packet that is received last breaks the format. -/
  | undecoded {front : History} {packet : List UInt8} {fault : Fault}
    (last : since.EndsIn front [.received socket packet])
    (format : Response.parse packet = .error fault) :
    Fails listing scenario listener socket past since fault
  /-- The listener fails with the page that it is handed last. -/
  | refused {page : Page} {fault : Fault} {front asides : History} {browser browser' : Browser}
    (inHand : InHand (since.traffic socket) page)
    (last : since.EndsIn front (.paged page.servers :: asides))
    (answer : listener page.servers browser (past ++ front) =
      ((.error fault, browser'), past ++ front ++ .paged page.servers :: asides)) :
    Fails listing scenario listener socket past since (.listenerFailed fault)
  /-- The first exchange is lost. -/
  | unanswered {fault : Fault} (lost : scenario.Lost socket past since fault)
    (transport : fault.isTransport = true) (first : (since.traffic socket).received = []) :
    Fails listing scenario listener socket past since fault
  /-- A continuation is lost, and with it the last attempt that there is. -/
  | spent {fault : Fault} (lost : scenario.Lost socket past since fault)
    (transport : fault.isTransport = true)
    (attempts : (since.traffic socket).attempts = listing.settings.retryCount + 1) :
    Fails listing scenario listener socket past since fault

/-- What comes when a listing is over is quiet. -/
theorem quiet_of_isParting (h : ∀ event ∈ more, event.isParting = true) : more.Quiet socket := by
  intro event hevent
  have hparting := h event hevent
  cases event <;> simp_all [Event.isParting, Event.isQuiet]

/-- What comes when a listing is over makes no difference. -/
theorem Fails.append (h : listing.Fails scenario listener socket past since fault)
    (hmore : ∀ event ∈ more, event.isParting = true) :
    listing.Fails scenario listener socket past (since ++ more) fault := by
  have hsame : History.traffic socket (since ++ more) = since.traffic socket :=
    History.traffic_append_quiet (quiet_of_isParting hmore)
  have hlost {fault : Fault} (h : scenario.Lost socket past since fault) :
      scenario.Lost socket past (since ++ more) fault := by
    cases h with
    | unsent last answer => exact .unsent (last.append hmore) answer
    | unheard last answer => exact .unheard (last.append hmore) answer
  cases h with
  | cancelled last looks set => exact .cancelled (last.append hmore) looks set
  | undecoded last format => exact .undecoded (last.append hmore) format
  | refused inHand last answer => exact .refused (hsame ▸ inHand) (last.append hmore) answer
  | unanswered lost transport first => exact .unanswered (hlost lost) transport (hsame ▸ first)
  | spent lost transport attempts => exact .spent (hlost lost) transport (hsame ▸ attempts)

/-! ## accounts -/

/-- What the packets on the socket of a listing say about its state. -/
def Tally (listing : Listing) (scenario : Scenario) (listener : Listener Play) (socket : Nat)
    (past since : History) (state : State) : Prop :=
  match state.phase with
  | .start | .awaiting => (since.traffic socket).received = []
  | .delivering =>
    LastPage (since.traffic socket).received state.page ∧ (since.traffic socket).attempts = 0
  | .continuing =>
    0 ≤ state.retriesLeft ∧
      ((since.traffic socket).attempts : Int) + state.retriesLeft = listing.settings.retryCount
  | .done => InHand (since.traffic socket) state.page ∧ state.page.isLast = true
  | .failed =>
    ∃ fault, state.lastFault = some fault ∧ listing.Fails scenario listener socket past since fault

theorem tally_endedBy (state : State) (h : listing.Fails scenario listener socket past since fault) :
    Tally listing scenario listener socket past since (state.endedBy fault) :=
  ⟨fault, rfl, h⟩

/-- A packet that is received ends the attempts, and is decoded. -/
theorem tally_decoded (state : State) (packet : List UInt8) (records : List Log.Record) :
    Tally listing scenario listener socket past
      (since ++ .received socket packet :: records.map .logged) (state.decoded packet) := by
  have htraffic : History.traffic socket
      (since ++ .received socket packet :: records.map .logged) =
      { since.traffic socket with
        received := (since.traffic socket).received ++ [packet]
        attempts := 0 } := by
    rw [List.append_cons, History.traffic_append_quiet (History.quiet_logged records),
      History.traffic_received]
  have hlast : (History.traffic socket
      (since ++ .received socket packet :: records.map .logged)).received.getLast? =
        some packet := by
    rw [htraffic]
    simp
  rw [State.decoded]
  cases hparse : Response.parse packet with
  | ok page => exact ⟨⟨packet, hlast, hparse⟩, by rw [htraffic]⟩
  | error fault =>
      have hends : History.EndsIn (since ++ .received socket packet :: records.map .logged) since
          [.received socket packet] := ⟨records.map .logged, by simp, by simp [Event.isParting]⟩
      exact tally_endedBy state (.undecoded hends hparse)

/-- What a continuation does before its packet is quiet. -/
theorem quiet_preparation (listing : Listing) : listing.preparation.Quiet socket := by
  simp [preparation, History.Quiet, Event.isQuiet]

theorem traffic_attempt {packet : List UInt8} {tail : History} (hlost : tail.Quiet socket) :
    History.traffic socket (since ++ (listing.preparation ++ .sent socket packet :: tail)) =
      { since.traffic socket with
        sent := (since.traffic socket).sent ++ [packet]
        attempts := (since.traffic socket).attempts + 1 } := by
  rw [← List.append_assoc, List.append_cons, History.traffic_append_quiet hlost,
    History.traffic_sent, History.traffic_append_quiet (quiet_preparation listing)]

theorem quiet_lost {packet : List UInt8} {tail : History}
    (h : scenario.Loses socket past packet fault tail) : tail.Quiet socket := by
  cases h <;> simp [History.Quiet, Event.isQuiet]

/-- What an exchange loses is lost last. -/
theorem lost_of_loses {front tail : History} {packet : List UInt8}
    (h : scenario.Loses socket (past ++ front) packet fault tail) :
    scenario.Lost socket past (front ++ .sent socket packet :: tail) fault := by
  cases h with
  | unsent answer => exact .unsent (History.endsIn_append front _) answer
  | unheard answer =>
      have hlast := History.endsIn_append (front ++ [.sent socket packet]) [.awaited socket none]
      rw [List.append_assoc] at hlast
      exact .unheard hlast (by rwa [← List.append_assoc past])

/-- A page that is handed on is in hand. -/
theorem inHand_paged {page : Page} {asides : History}
    (hlast : LastPage (since.traffic socket).received page) (haside : asides.Asides) :
    InHand (History.traffic socket (since ++ .paged page.servers :: asides)) page := by
  rw [History.traffic_paged_asides socket since page.servers haside]
  exact ⟨hlast, by simp⟩

/-- **A passage keeps account.** -/
theorem Passage.tally (h : Passage listing scenario listener socket state (past ++ since) next more)
    (htally : Tally listing scenario listener socket past since state) :
    Tally listing scenario listener socket past (since ++ more) next := by
  cases h with
  | beginStopped phase set =>
      exact tally_endedBy state (.cancelled (History.endsIn_append since _) (.inl rfl) set)
  | pauseStopped phase set =>
      exact tally_endedBy state (.cancelled (History.endsIn_append since _) (.inr rfl) set)
  | proceedStopped phase set =>
      have hlast := History.endsIn_append (since ++ [.waited listing.settings.retryDelay]) [.checked]
      rw [List.append_assoc] at hlast
      refine tally_endedBy state (.cancelled hlast (.inl rfl) ?_)
      simpa [preparation] using set
  | beginFailed phase clear transport answer =>
      simp only [Tally, phase] at htally
      have hlost : scenario.Lost socket past (since ++ [.checked] ++ [.sent socket _]) _ :=
        lost_of_loses (.unsent (by rwa [← List.append_assoc past]))
      rw [List.append_assoc] at hlost
      refine tally_endedBy state (.unanswered hlost transport ?_)
      simp [History.traffic_append, Traffic.add, htally]
  | begun phase clear =>
      simp only [Tally, phase] at htally ⊢
      simp [History.traffic_append, Traffic.add, htally]
  | awaitFailed phase transport answer =>
      simp only [Tally, phase] at htally
      refine tally_endedBy state
        (.unanswered (.unheard (History.endsIn_append since _) answer) transport ?_)
      rw [History.traffic_awaited, htally]
  | @awaited reply records phase =>
      have hsplit : since ++ ([.awaited socket none, .received socket reply] ++
          records.map .logged) =
          (since ++ [.awaited socket none]) ++ .received socket reply :: records.map .logged := by
        simp
      rw [hsplit]
      exact tally_decoded state reply records
  | refused phase aside answer =>
      simp only [Tally, phase] at htally
      exact tally_endedBy state
        (.refused (inHand_paged htally.1 aside) (History.endsIn_append since _) answer)
  | finished phase last aside =>
      simp only [Tally, phase] at htally
      exact ⟨inHand_paged htally.1 aside, last⟩
  | delivered phase more ends aside =>
      simp only [Tally, phase] at htally
      simp only [Tally]
      rw [History.traffic_paged_asides _ _ _ aside]
      exact ⟨Int.natCast_nonneg _, by simp [htally.2]⟩
  | @retried fault tail packet phase clear transport left lost =>
      simp only [Tally, phase] at htally ⊢
      have hquiet : History.Quiet socket (tail ++ [.logged (retryRecord state fault)]) :=
        (quiet_lost lost).append (History.quiet_logged [_])
      rw [traffic_attempt hquiet]
      simp only
      omega
  | spent phase clear transport left lost =>
      simp only [Tally, phase] at htally
      have hlost := lost
      rw [List.append_assoc] at hlost
      have hends := lost_of_loses hlost
      rw [List.append_assoc] at hends
      refine tally_endedBy state (.spent hends transport ?_)
      rw [traffic_attempt (quiet_lost lost)]
      simp only
      omega
  | @proceeded reply packet records phase =>
      have hsplit : since ++ (listing.preparation ++ .sent socket packet ::
          ([.awaited socket none, .received socket reply] ++ records.map .logged)) =
          (since ++ listing.preparation ++ [.sent socket packet, .awaited socket none]) ++
            .received socket reply :: records.map .logged := by
        simp
      rw [hsplit]
      exact tally_decoded state reply records

end Listing

end ServerBrowser
