import ServerBrowser.Proofs.Listing.Run
import ServerBrowser.Proofs.Query

/-!
# ServerBrowser.Proofs.Listing.Traffic

What the parts of a step do to the traffic of a listing.  Delays, looks at the cancel signal and the
words of the log are quiet; asking sends the packet of the query and is one more attempt; an answer
is received and ends the attempts.
-/

namespace ServerBrowser

open Scenario

variable {listing : Listing} {scenario : Scenario} {socket : Nat} {history history' : History}

/-- A packet that arrives is received, and ends the attempts. -/
theorem Scenario.Receives.traffic {packet : List UInt8}
    (h : scenario.Receives socket history (.ok packet) history') :
    history'.traffic socket = { history.traffic socket with
      received := (history.traffic socket).received ++ [packet]
      attempts := 0 } := by
  cases h with
  | arrived answer => rw [History.traffic_received, History.traffic_awaited]

/-- A packet that is lost leaves the traffic as it is. -/
theorem Scenario.Receives.traffic_error {fault : Fault}
    (h : scenario.Receives socket history (.error fault) history') :
    history'.traffic socket = history.traffic socket := by
  cases h with
  | lost answer => rw [History.traffic_awaited]

namespace Listing

/-! ## asking -/

/-- Asking for what follows the address of a record sends a packet that names it; whether that
succeeds is for the world to say. -/
theorem Asks.of_isRecord {cursor : ServerAddress} {result : Except Fault Unit}
    (h : listing.Asks scenario socket cursor history result history') (hcursor : cursor.IsRecord) :
    ∃ packet, Query.cursor? packet = some cursor ∧ history' = history ++ [.sent socket packet] ∧
      scenario.send (history ++ [.sent socket packet]) = result := by
  obtain ⟨packet, hbytes, hread⟩ := (listing.query cursor).cursor?_toBytes hcursor rfl
  cases h with
  | unwritten query => simp [hbytes] at query
  | unsent query answer | sent query answer =>
      obtain rfl := Except.ok.inj (hbytes.symm.trans query)
      exact ⟨packet, hread, rfl, answer⟩

/-- An attempt to go on after the address of a record sends a packet that names it.  Then either the
sending has failed, or the answer is waited for. -/
theorem Exchanges.of_isRecord {cursor : ServerAddress} {result : Except Fault (List UInt8)}
    (h : listing.Exchanges scenario socket cursor history result history')
    (hcursor : cursor.IsRecord) :
    ∃ packet, Query.cursor? packet = some cursor ∧
      ((∃ fault, result = .error fault ∧ history' = history ++ [.sent socket packet] ∧
          scenario.send (history ++ [.sent socket packet]) = .error fault) ∨
        scenario.Receives socket (history ++ [.sent socket packet]) result history') := by
  cases h with
  | unasked asks =>
      obtain ⟨packet, hread, hhistory, hsend⟩ := asks.of_isRecord hcursor
      exact ⟨packet, hread, .inl ⟨_, rfl, hhistory, hsend⟩⟩
  | asked asks receives =>
      obtain ⟨packet, hread, rfl, -⟩ := asks.of_isRecord hcursor
      exact ⟨packet, hread, .inr receives⟩

/-! ## the rest of a step -/

theorem quiet_decodeEvents (state : State) (packet : List UInt8) :
    History.Quiet socket (decodeEvents state packet) := by
  refine (History.quiet_logged _).append ?_
  cases Response.parse packet with
  | ok page => exact .singleton rfl
  | error fault => simp [History.Quiet]

/-- Before an attempt nothing but a delay and a look at the cancel signal is added. -/
theorem readied_eq (listing : Listing) (cancellable : Bool) (socket : Nat) (history : History) :
    ∃ more, listing.readied cancellable history = history ++ more ∧ History.Quiet socket more :=
  ⟨_, List.append_assoc .., (History.quiet_delay _ _).append (History.quiet_look _)⟩

theorem traffic_readied (listing : Listing) (cancellable : Bool) (history : History) :
    (listing.readied cancellable history).traffic socket = history.traffic socket := by
  obtain ⟨more, hmore, hquiet⟩ := readied_eq listing cancellable socket history
  rw [hmore, History.traffic_append_quiet hquiet]

theorem traffic_opened (listing : Listing) (history : History) :
    (listing.opened history).traffic socket = history.traffic socket := by
  rw [opened, List.append_assoc]
  exact History.traffic_append_quiet ((History.Quiet.singleton rfl).append (.singleton rfl))

theorem quiet_closing (listing : Listing) (socket closed : Nat)
    (result : Except Fault State) :
    History.Quiet socket (listing.closing closed result) := by
  cases result <;> simp [closing, History.Quiet, Event.isQuiet]

end Listing

end ServerBrowser
