import ServerBrowser.Proofs.Listener
import ServerBrowser.Proofs.Listing.Run
import ServerBrowser.Proofs.Query

/-!
# ServerBrowser.Proofs.Listing.Acts

What a listing without a cancel signal does, with what comes of it.  A history says which packets
are sent and waited for, but not which of these operations fail.  `Listener.Acts` reads a history as
a row of acts that carry the answers of the world and of the listener; all other events are asides.

An attempt sends one packet, and waits for an answer if the packet could be sent
(`Exchanges.attempt`).
-/

namespace ServerBrowser

open Scenario

/-- One thing that a listing does, with what comes of it. -/
inductive Act where
  | slept (seconds : Binary64)
  | sent (socket : Nat) (packet : List UInt8) (answer : Except Fault Unit)
  | awaited (socket : Nat) (answer : Except Fault (List UInt8))
  /-- A page is handed to the listener, who may refuse it with a fault. -/
  | paged (page : List ServerAddress) (refusal : Option Fault)

/-- The fault with which a listener refuses a page, where it does. -/
def refusal : Except Fault (List ServerAddress) → Option Fault
  | .ok _ => none
  | .error fault => some fault

/-- The acts that lead from a browser and a history to others, with the answers of the scenario and
of the listener. -/
inductive Listener.Acts (listener : Listener Play) (scenario : Scenario) (browser : Browser)
    (past : History) : List Act → Browser → History → Prop
  | nil : Acts listener scenario browser past [] browser past
  | said {acts : List Act} {browser' : Browser} {history : History} {event : Event}
    (front : Acts listener scenario browser past acts browser' history)
    (aside : event.isAside = true) :
    Acts listener scenario browser past acts browser' (history ++ [event])
  | slept {acts : List Act} {browser' : Browser} {history : History} (seconds : Binary64)
    (front : Acts listener scenario browser past acts browser' history) :
    Acts listener scenario browser past (acts ++ [.slept seconds]) browser'
      (history ++ [.slept seconds])
  | sent {acts : List Act} {browser' : Browser} {history : History} {socket : Nat}
    {packet : List UInt8} {answer : Except Fault Unit}
    (front : Acts listener scenario browser past acts browser' history)
    (answers : scenario.send (history ++ [.sent socket packet]) = answer) :
    Acts listener scenario browser past (acts ++ [.sent socket packet answer]) browser'
      (history ++ [.sent socket packet])
  | awaited {acts : List Act} {browser' : Browser} {history history' : History} {socket : Nat}
    {answer : Except Fault (List UInt8)}
    (front : Acts listener scenario browser past acts browser' history)
    (receives : scenario.Receives socket history answer history') :
    Acts listener scenario browser past (acts ++ [.awaited socket answer]) browser' history'
  | paged {acts : List Act} {browser' browser'' : Browser} {history asides : History}
    {page : List ServerAddress} {answer : Except Fault (List ServerAddress)}
    (front : Acts listener scenario browser past acts browser' history)
    (listens : listener page browser' history =
      ((answer, browser''), history ++ .paged page :: asides))
    (aside : History.Asides asides) :
    Acts listener scenario browser past (acts ++ [.paged page (refusal answer)]) browser''
      (history ++ .paged page :: asides)

namespace Listener.Acts

variable {listener : Listener Play} {scenario : Scenario} {browser browser' browser'' : Browser}
  {past history history' more : History} {first second acts : List Act} {socket : Nat}

/-- Acts after acts are acts. -/
theorem append (hfirst : listener.Acts scenario browser past first browser' history)
    (hsecond : listener.Acts scenario browser' history second browser'' history') :
    listener.Acts scenario browser past (first ++ second) browser'' history' := by
  induction hsecond with
  | nil => rwa [List.append_nil]
  | said front aside ih => exact ih.said aside
  | slept seconds front ih =>
      rw [← List.append_assoc]
      exact ih.slept seconds
  | sent front answers ih =>
      rw [← List.append_assoc]
      exact ih.sent answers
  | awaited front receives ih =>
      rw [← List.append_assoc]
      exact ih.awaited receives
  | paged front listens aside ih =>
      rw [← List.append_assoc]
      exact ih.paged listens aside

/-- Asides are no acts. -/
theorem asides (h : listener.Acts scenario browser past acts browser' history)
    (hmore : History.Asides more) :
    listener.Acts scenario browser past acts browser' (history ++ more) := by
  induction more generalizing history with
  | nil => rwa [List.append_nil]
  | cons event more ih =>
      obtain ⟨hevent, hrest⟩ := List.forall_mem_cons.1 hmore
      rw [List.append_cons]
      exact ih (h.said hevent) hrest

end Listener.Acts

/-- Handing a page to a listener that attends is one act. -/
theorem Listener.Attends.acts {listener : Listener Play} (h : listener.Attends)
    (scenario : Scenario) {page : List ServerAddress} {browser browser' : Browser}
    {history history' : History} {answer : Except Fault (List ServerAddress)}
    (hlistens : listener page browser history = ((answer, browser'), history')) :
    listener.Acts scenario browser history [.paged page (refusal answer)] browser' history' ∧
      (∀ left, answer = .ok left → left = page) := by
  obtain ⟨result, browser'', asides, hplay, hleft, hasides⟩ := h page browser history
  cases hplay.symm.trans hlistens
  have hnone : listener.Acts scenario browser history [] browser history := .nil
  exact ⟨hnone.paged hplay hasides, hleft⟩

namespace Listing

variable {listing : Listing} {scenario : Scenario} {listener : Listener Play} {socket : Nat}
  {cursor : ServerAddress} {history history' : History}

/-- Decoding a packet is no act. -/
theorem asides_decodeEvents (state : State) (packet : List UInt8) :
    History.Asides (decodeEvents state packet) := by
  refine (History.asides_logged _).append ?_
  cases Response.parse packet with
  | ok page => exact History.asides_logged [_]
  | error fault => exact History.asides_nil

/-- Where a packet names the cursor, asking is one act: it sends that packet. -/
theorem Asks.acts {result : Except Fault Unit} {packet : List UInt8}
    (h : listing.Asks scenario socket cursor history result history')
    (hquery : (listing.query cursor).toBytes = .ok packet) (browser : Browser) :
    listener.Acts scenario browser history [.sent socket packet result] browser history' := by
  have hnone : listener.Acts scenario browser history [] browser history := .nil
  cases h with
  | unwritten query => cases query.symm.trans hquery
  | unsent query answer | sent query answer =>
      cases query.symm.trans hquery
      exact hnone.sent answer

/-! ## attempts -/

/-- An attempt to get a page: the packet that is sent, and what comes of sending it and, if it could
be sent, of waiting for an answer. -/
structure Attempt where
  packet : List UInt8
  answer : Except Fault (Except Fault (List UInt8))

namespace Attempt

/-- What an attempt does: it sends its packet, and waits for an answer if that has succeeded. -/
def acts (socket : Nat) (attempt : Attempt) : List Act :=
  match attempt.answer with
  | .error fault => [.sent socket attempt.packet (.error fault)]
  | .ok reply => [.sent socket attempt.packet (.ok ()), .awaited socket reply]

/-- What comes of an attempt: a fault of sending or of receiving, or a packet. -/
def result (attempt : Attempt) : Except Fault (List UInt8) :=
  match attempt.answer with
  | .error fault => .error fault
  | .ok reply => reply

/-- The page that an attempt gets. -/
def page (attempt : Attempt) : Except Fault Page :=
  attempt.result.bind Response.parse

/-- Whether an attempt fails in the transport. -/
def isLost (attempt : Attempt) : Bool :=
  match attempt.result with
  | .error fault => fault.isTransport
  | .ok _ => false

theorem isLost_of_error {attempt : Attempt} {fault : Fault} (h : attempt.result = .error fault) :
    attempt.isLost = fault.isTransport := by
  rw [isLost, h]

end Attempt

/-- Where a packet names the cursor, all that is done to get the next page is one attempt. -/
theorem Exchanges.attempt {result : Except Fault (List UInt8)} {packet : List UInt8}
    (h : listing.Exchanges scenario socket cursor history result history')
    (hquery : (listing.query cursor).toBytes = .ok packet) (browser : Browser) :
    ∃ attempt : Attempt, attempt.packet = packet ∧ attempt.result = result ∧
      listener.Acts scenario browser history (attempt.acts socket) browser history' := by
  cases h with
  | unasked asks => exact ⟨⟨packet, .error _⟩, rfl, rfl, asks.acts hquery browser⟩
  | asked asks receives =>
      have hasked : listener.Acts scenario browser history [.sent socket packet (.ok ())] browser
          _ := asks.acts hquery browser
      exact ⟨⟨packet, .ok result⟩, rfl, rfl, hasked.awaited receives⟩

end Listing

end ServerBrowser
