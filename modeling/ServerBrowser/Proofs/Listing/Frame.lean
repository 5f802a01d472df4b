import ServerBrowser.Proofs.Listing.Move

/-!
# ServerBrowser.Proofs.Listing.Frame

What a step of a listing leaves alone.  All events that a step adds are its own: packets on its
socket, delays, looks at the cancel signal and words of the log.  The one exception is the delivery
of a page, which adds what the listener adds, and nothing else (`Move.frame`).
-/

namespace ServerBrowser

open Scenario

/-- The socket that an event is about. -/
def Event.socket? : Event → Option Nat
  | .opened socket .. | .created socket | .limited socket _ | .connected socket .. | .sent socket _
  | .awaited socket _ | .received socket _ | .closed socket => some socket
  | _ => none

/-- Whether an event may be one of a listing over a socket: a packet on it, a delay, a look at the
cancel signal, or a word of the log. -/
def Event.isOwn (socket : Nat) : Event → Bool
  | .sent other _ | .awaited other _ | .received other _ => other = socket
  | .slept _ | .waited _ | .checked | .logged _ => true
  | _ => false

namespace History

/-- Events of a listing over a socket. -/
def Own (socket : Nat) (more : History) : Prop :=
  ∀ event ∈ more, event.isOwn socket = true

variable {socket : Nat} {first second : History}

theorem own_nil : Own socket [] := by simp [Own]

theorem Own.append (hfirst : Own socket first) (hsecond : Own socket second) :
    Own socket (first ++ second) := by
  intro event hevent
  obtain hevent | hevent := List.mem_append.1 hevent
  · exact hfirst event hevent
  · exact hsecond event hevent

theorem own_logged (records : List Log.Record) : Own socket (records.map .logged) := by
  simp [Own, Event.isOwn]

theorem own_look (cancellable : Bool) : Own socket (look cancellable) := by
  cases cancellable <;> simp [Own, look, Event.isOwn]

theorem own_delay (cancellable : Bool) (seconds : Binary64) :
    Own socket (delay cancellable seconds) := by
  cases cancellable <;> simp [Own, delay, Event.isOwn]

end History

variable {listing : Listing} {scenario : Scenario} {cancellable : Bool} {socket : Nat}
  {history history' : History}

/-- Waiting for a packet adds events of the socket only. -/
theorem Scenario.Receives.frame {result : Except Fault (List UInt8)}
    (h : scenario.Receives socket history result history') :
    ∃ more, history' = history ++ more ∧ History.Own socket more := by
  cases h with
  | lost answer => exact ⟨_, rfl, by simp [History.Own, Event.isOwn]⟩
  | arrived answer => exact ⟨_, List.append_assoc .., by simp [History.Own, Event.isOwn]⟩

namespace Listing

variable {cursor : ServerAddress} {state : State}

/-- So does asking. -/
theorem Asks.frame {result : Except Fault Unit}
    (h : listing.Asks scenario socket cursor history result history') :
    ∃ more, history' = history ++ more ∧ History.Own socket more := by
  cases h with
  | unwritten query => exact ⟨[], by simp, History.own_nil⟩
  | unsent query answer | sent query answer =>
      exact ⟨_, rfl, by simp [History.Own, Event.isOwn]⟩

/-- So does a whole attempt. -/
theorem Exchanges.frame {result : Except Fault (List UInt8)}
    (h : listing.Exchanges scenario socket cursor history result history') :
    ∃ more, history' = history ++ more ∧ History.Own socket more := by
  cases h with
  | unasked asks => exact asks.frame
  | asked asks receives =>
      obtain ⟨asked, rfl, hasked⟩ := asks.frame
      obtain ⟨received, rfl, hreceived⟩ := receives.frame
      exact ⟨asked ++ received, by simp, hasked.append hreceived⟩

theorem own_decodeEvents (state : State) (packet : List UInt8) :
    History.Own socket (decodeEvents state packet) := by
  refine (History.own_logged _).append ?_
  cases Response.parse packet with
  | ok page => simp [History.Own, Event.isOwn]
  | error fault => exact History.own_nil

theorem own_readied (listing : Listing) (cancellable : Bool) (history : History) :
    ∃ more, listing.readied cancellable history = history ++ more ∧ History.Own socket more :=
  ⟨_, List.append_assoc .., (History.own_delay _ _).append (History.own_look _)⟩

/-- **A step adds events of its own, or what the listener adds that it hands its page to.** -/
theorem Move.frame {listener : Listener Play} {browser browser' : Browser}
    {result : Except Fault State}
    (h : Move listing scenario cancellable listener socket state browser history result browser'
      history') :
    (browser' = browser ∧ ∃ more, history' = history ++ more ∧ History.Own socket more) ∨
      ∃ left, listener state.page.servers browser history = ((left, browser'), history') := by
  have hready : ∃ more, listing.readied cancellable history = history ++ more ∧
      History.Own socket more := own_readied listing cancellable history
  cases h with
  | beginStopped phase set => exact .inl ⟨rfl, _, rfl, History.own_look _⟩
  | beginFailed phase clear asks | begun phase clear asks =>
      obtain ⟨asked, rfl, hasked⟩ := asks.frame
      exact .inl ⟨rfl, _, List.append_assoc .., (History.own_look _).append hasked⟩
  | awaitFailed phase receives => exact .inl ⟨rfl, receives.frame⟩
  | awaited phase receives =>
      obtain ⟨received, rfl, hreceived⟩ := receives.frame
      exact .inl ⟨rfl, _, List.append_assoc .., hreceived.append (own_decodeEvents _ _)⟩
  | listenerFailed phase listens | delivered phase listens => exact .inr ⟨_, listens⟩
  | pauseStopped phase set => exact .inl ⟨rfl, _, rfl, History.own_delay _ _⟩
  | proceedStopped phase clear set => exact .inl ⟨rfl, hready⟩
  | @retried fault _ phase clear exchanges transport left =>
      obtain ⟨readied, heq, hreadied⟩ := hready
      obtain ⟨exchanged, rfl, hexchanged⟩ := exchanges.frame
      refine .inl ⟨rfl, readied ++ exchanged ++ [.logged (retryRecord state fault)],
        by simp [heq], ?_⟩
      exact (hreadied.append hexchanged).append (History.own_logged [_])
  | proceedFailed phase clear exchanges final =>
      obtain ⟨readied, heq, hreadied⟩ := hready
      obtain ⟨exchanged, rfl, hexchanged⟩ := exchanges.frame
      exact .inl ⟨rfl, readied ++ exchanged, by simp [heq], hreadied.append hexchanged⟩
  | @proceeded packet _ phase clear exchanges =>
      obtain ⟨readied, heq, hreadied⟩ := hready
      obtain ⟨exchanged, rfl, hexchanged⟩ := exchanges.frame
      refine .inl ⟨rfl, readied ++ exchanged ++ decodeEvents state packet, by simp [heq], ?_⟩
      exact (hreadied.append hexchanged).append (own_decodeEvents _ _)
  | rested phase => exact .inl ⟨rfl, [], by simp, History.own_nil⟩

end Listing

end ServerBrowser
