import ServerBrowser.Proofs.Listener
import ServerBrowser.Proofs.Listing.Traffic
import ServerBrowser.Proofs.Response
import ServerBrowser.Proofs.Script

/-!
# ServerBrowser.Proofs.Listing.Passage

The steps of a listing that has a cancel signal, a listener that attends to its pages, and a world
in which sending and receiving fail in the transport only.  Such a step always leads on to a state,
and `Passage` says for each way in which it may end which events it adds.

Every move of such a listing is a passage (`Move.passage`), as long as its state can be read
(`State.Sound`); a passage leads to such a state again.
-/

namespace ServerBrowser

open Scenario

/-- That sending and receiving fail in the transport only. -/
structure Scenario.LosesOnly (scenario : Scenario) : Prop where
  send : ∀ history fault, scenario.send history = .error fault → fault.isTransport = true
  receive : ∀ history fault, scenario.receive history = .error fault → fault.isTransport = true

/-- A row of scripts loses packets in the transport only, if all the faults in it are such. -/
theorem Script.losesOnly_scenario {scripts : List Script} {ending : Ending}
    (hsends : ∀ script ∈ scripts, ∀ fault, some fault ∈ script.sends → fault.isTransport = true)
    (hreceives : ∀ script ∈ scripts, ∀ fault, .error fault ∈ script.receives →
      fault.isTransport = true)
    (hending : ending.noReceive.isTransport = true) (cancel : CancelScript) (start : Nat) :
    (scenario scripts ending cancel start).LosesOnly where
  send history fault h := by
    rw [send_scenario] at h
    cases hscript : scripts[lastSocket history]? with
    | none => simp [hscript, answer] at h
    | some script =>
        rw [hscript, Option.map_some, Option.getD_some] at h
        refine hsends script (List.mem_of_getElem? hscript) fault ?_
        cases hentry : script.sends[history.sendCount (lastSocket history) - 1]? with
        | none => simp [hentry, answer] at h
        | some entry =>
            cases entry with
            | none => simp [hentry, answer] at h
            | some other =>
                simp only [hentry, Option.join_some, answer, Except.error.injEq] at h
                rw [← h]
                exact List.mem_of_getElem? hentry
  receive history fault h := by
    rw [receive_scenario] at h
    cases hscript : scripts[lastSocket history]? with
    | none =>
        simp only [hscript, Option.map_none, Option.getD_none, List.getElem?_nil,
          Except.error.injEq] at h
        rw [← h, hending]
    | some script =>
        rw [hscript, Option.map_some, Option.getD_some] at h
        cases hentry : script.receives[history.awaitCount (lastSocket history) - 1]? with
        | none =>
            simp only [hentry, Option.getD_none, Except.error.injEq] at h
            rw [← h, hending]
        | some entry =>
            simp only [hentry, Option.getD_some] at h
            refine hreceives script (List.mem_of_getElem? hscript) fault ?_
            rw [← h]
            exact List.mem_of_getElem? hentry

/-- How an exchange is lost that starts with a packet after `past`, and what comes after the packet:
it is not sent, or no answer to it is received. -/
inductive Scenario.Loses (scenario : Scenario) (socket : Nat) (past : History)
    (packet : List UInt8) (fault : Fault) : History → Prop
  | unsent (answer : scenario.send (past ++ [.sent socket packet]) = .error fault) :
    Loses scenario socket past packet fault []
  | unheard (answer : scenario.receive (past ++ [.sent socket packet] ++ [.awaited socket none]) =
      .error fault) :
    Loses scenario socket past packet fault [.awaited socket none]

namespace Listing

variable {listing : Listing} {scenario : Scenario} {listener : Listener Play} {socket : Nat}
  {state next : State} {browser browser' : Browser} {past history history' since : History}
  {cursor : ServerAddress}

/-! ## the parts of a passage -/

/-- What comes before the packet of a continuation: the signal is waited for, and looked at. -/
def preparation (listing : Listing) : History :=
  [.waited listing.settings.retryDelay, .checked]

theorem readied_true (listing : Listing) (history : History) :
    listing.readied true history = history ++ listing.preparation := by
  simp [readied, delay, look, preparation]

/-- The state that a packet leads to: that with its page, or the one that its fault has ended. -/
def State.decoded (state : State) (packet : List UInt8) : State :=
  match Response.parse packet with
  | .ok page => state.withPage page
  | .error fault => state.endedBy fault

theorem afterFault_of_inFamily {fault : Fault} (h : fault.inFamily = true) :
    state.afterFault fault = .ok (state.endedBy fault) := by
  rw [State.afterFault, if_pos h]
  rfl

theorem settle_parse (state : State) (packet : List UInt8) :
    state.settle ((Response.parse packet).map state.withPage) = .ok (state.decoded packet) := by
  rw [State.decoded]
  cases hparse : Response.parse packet with
  | ok page => rfl
  | error fault => exact afterFault_of_inFamily (Response.inFamily_of_parse hparse)

/-- Decoding a packet is a matter of the log. -/
theorem decodeEvents_eq (state : State) (packet : List UInt8) :
    ∃ records : List Log.Record, decodeEvents state packet = records.map .logged := by
  rw [decodeEvents]
  cases Response.parse packet with
  | ok page => exact ⟨Response.remarks packet ++ [pageRecord state page], by simp⟩
  | error fault => exact ⟨Response.remarks packet, by simp⟩

/-- An attempt that fails has sent its packet, and may have waited for an answer. -/
theorem Exchanges.fails (hloses : scenario.LosesOnly) {fault : Fault}
    (h : listing.Exchanges scenario socket cursor history (.error fault) history')
    (hcursor : cursor.IsRecord) :
    fault.isTransport = true ∧ ∃ packet tail, scenario.Loses socket history packet fault tail ∧
      history' = history ++ .sent socket packet :: tail := by
  obtain ⟨packet, -, ⟨_, ⟨⟩, rfl, hsend⟩ | hreceives⟩ := h.of_isRecord hcursor
  · exact ⟨hloses.send _ _ hsend, packet, [], .unsent hsend, rfl⟩
  · cases hreceives with
    | lost answer =>
        refine ⟨hloses.receive _ _ answer, packet, [.awaited socket none], .unheard answer, ?_⟩
        rw [List.append_assoc]
        rfl

/-- An attempt that gets a packet has sent its own one before. -/
theorem Exchanges.arrives {reply : List UInt8}
    (h : listing.Exchanges scenario socket cursor history (.ok reply) history')
    (hcursor : cursor.IsRecord) :
    ∃ packet, history' =
      history ++ [.sent socket packet, .awaited socket none, .received socket reply] := by
  obtain ⟨packet, -, ⟨_, ⟨⟩, -⟩ | hreceives⟩ := h.of_isRecord hcursor
  cases hreceives with
  | arrived answer => exact ⟨packet, by simp⟩

/-- Whether a state can be read: its page was decoded from a packet, its cursor can be written. -/
def State.Sound (state : State) : Prop :=
  match state.phase with
  | .delivering => ∃ reply, Response.parse reply = .ok state.page
  | .continuing => state.cursor.IsRecord
  | _ => True

/-! ## passages -/

/-- The ways in which a step may end, with the state that it leads to and the events that it adds.
In all of them the listing has a signal. -/
inductive Passage (listing : Listing) (scenario : Scenario) (listener : Listener Play)
    (socket : Nat) (state : State) (past : History) : State → History → Prop
  | beginStopped (phase : state.phase = .start)
    (set : scenario.isCancelled (past ++ [.checked]) = true) :
    Passage listing scenario listener socket state past (state.endedBy .queryCancelled) [.checked]
  | beginFailed {packet : List UInt8} {fault : Fault} (phase : state.phase = .start)
    (clear : scenario.isCancelled (past ++ [.checked]) = false)
    (transport : fault.isTransport = true)
    (answer : scenario.send (past ++ [.checked] ++ [.sent socket packet]) = .error fault) :
    Passage listing scenario listener socket state past (state.endedBy fault)
      [.checked, .sent socket packet]
  | begun {packet : List UInt8} (phase : state.phase = .start)
    (clear : scenario.isCancelled (past ++ [.checked]) = false) :
    Passage listing scenario listener socket state past { state with phase := .awaiting, cursor := .null }
      [.checked, .sent socket packet]
  | awaitFailed {fault : Fault} (phase : state.phase = .awaiting)
    (transport : fault.isTransport = true)
    (answer : scenario.receive (past ++ [.awaited socket none]) = .error fault) :
    Passage listing scenario listener socket state past (state.endedBy fault) [.awaited socket none]
  | awaited {reply : List UInt8} (records : List Log.Record) (phase : state.phase = .awaiting) :
    Passage listing scenario listener socket state past (state.decoded reply)
      ([.awaited socket none, .received socket reply] ++ records.map .logged)
  | refused {fault : Fault} {asides : History} {browser browser' : Browser}
    (phase : state.phase = .delivering) (aside : asides.Asides)
    (answer : listener state.page.servers browser past =
      ((.error fault, browser'), past ++ .paged state.page.servers :: asides)) :
    Passage listing scenario listener socket state past (state.endedBy (.listenerFailed fault))
      (.paged state.page.servers :: asides)
  | finished {asides : History} (phase : state.phase = .delivering)
    (last : state.page.isLast = true) (aside : asides.Asides) :
    Passage listing scenario listener socket state past
      { state.counted state.page.servers with phase := .done }
      (.paged state.page.servers :: asides)
  | delivered {last : ServerAddress} {asides : History} (phase : state.phase = .delivering)
    (more : state.page.isLast = false) (ends : state.page.servers.getLast? = some last)
    (aside : asides.Asides) :
    Passage listing scenario listener socket state past
      { state.counted state.page.servers with
        phase := .continuing
        cursor := last
        retriesLeft := listing.settings.retryCount
        lastFault := none }
      (.paged state.page.servers :: asides)
  | pauseStopped (phase : state.phase = .continuing)
    (set : scenario.isCancelled (past ++ [.waited listing.settings.retryDelay]) = true) :
    Passage listing scenario listener socket state past (state.endedBy .queryCancelled)
      [.waited listing.settings.retryDelay]
  | proceedStopped (phase : state.phase = .continuing)
    (set : scenario.isCancelled (past ++ listing.preparation) = true) :
    Passage listing scenario listener socket state past (state.endedBy .queryCancelled) listing.preparation
  | retried {fault : Fault} {tail : History} (packet : List UInt8)
    (phase : state.phase = .continuing)
    (clear : scenario.isCancelled (past ++ listing.preparation) = false)
    (transport : fault.isTransport = true) (left : 0 < state.retriesLeft)
    (lost : scenario.Loses socket (past ++ listing.preparation) packet fault tail) :
    Passage listing scenario listener socket state past
      { state with retriesLeft := state.retriesLeft - 1, lastFault := some fault }
      (listing.preparation ++ .sent socket packet :: (tail ++ [.logged (retryRecord state fault)]))
  | spent {packet : List UInt8} {fault : Fault} {tail : History}
    (phase : state.phase = .continuing)
    (clear : scenario.isCancelled (past ++ listing.preparation) = false)
    (transport : fault.isTransport = true) (left : state.retriesLeft ≤ 0)
    (lost : scenario.Loses socket (past ++ listing.preparation) packet fault tail) :
    Passage listing scenario listener socket state past (state.endedBy fault)
      (listing.preparation ++ .sent socket packet :: tail)
  | proceeded {reply : List UInt8} (packet : List UInt8) (records : List Log.Record)
    (phase : state.phase = .continuing)
    (clear : scenario.isCancelled (past ++ listing.preparation) = false) :
    Passage listing scenario listener socket state past (state.decoded reply)
      (listing.preparation ++ .sent socket packet ::
        ([.awaited socket none, .received socket reply] ++ records.map .logged))

/-- **Every move of a listing with a signal is a passage**, if its listener attends and packets are
lost only in the transport. -/
theorem Move.passage {result : Except Fault State}
    (hmove : Move listing scenario true listener socket state browser history result browser'
      history')
    (hattends : listener.Attends) (hloses : scenario.LosesOnly) (hsound : state.Sound)
    (hfinished : state.isFinished = false) :
    ∃ next since, result = .ok next ∧ history' = history ++ since ∧
      Passage listing scenario listener socket state history next since := by
  cases hmove with
  | beginStopped phase set => exact ⟨_, _, rfl, rfl, .beginStopped phase set⟩
  | beginFailed phase clear asks =>
      obtain ⟨packet, -, rfl, hsend⟩ := asks.of_isRecord ServerAddress.isRecord_null
      have htransport := hloses.send _ _ hsend
      exact ⟨_, _, afterFault_of_inFamily (Fault.inFamily_of_isTransport htransport),
        List.append_assoc .., .beginFailed phase clear htransport hsend⟩
  | begun phase clear asks =>
      obtain ⟨packet, -, rfl, -⟩ := asks.of_isRecord ServerAddress.isRecord_null
      exact ⟨_, _, rfl, List.append_assoc .., .begun phase clear⟩
  | awaitFailed phase receives =>
      cases receives with
      | lost answer =>
          have htransport := hloses.receive _ _ answer
          exact ⟨_, _, afterFault_of_inFamily (Fault.inFamily_of_isTransport htransport), rfl,
            .awaitFailed phase htransport answer⟩
  | @awaited packet _ phase receives =>
      obtain ⟨records, hrecords⟩ := decodeEvents_eq state packet
      cases receives with
      | arrived answer =>
          refine ⟨_, _, settle_parse state packet, ?_, .awaited records phase⟩
          rw [hrecords]
          simp
  | listenerFailed phase listens =>
      obtain ⟨result, browser'', asides, hplay, -, hasides⟩ :=
        hattends state.page.servers browser history
      cases hplay.symm.trans listens
      exact ⟨_, _, rfl, rfl, .refused phase hasides hplay⟩
  | delivered phase listens =>
      obtain ⟨result, browser'', asides, hplay, hleft, hasides⟩ :=
        hattends state.page.servers browser history
      cases hplay.symm.trans listens
      obtain rfl := hleft _ rfl
      rw [settle_delivered]
      cases hend : state.page.isLast with
      | true => exact ⟨_, _, delivered_of_isLast _ hend, rfl, .finished phase hend hasides⟩
      | false =>
          simp only [State.Sound, phase] at hsound
          obtain ⟨reply, hparse⟩ := hsound
          have hservers := (Response.parse_eq_ok hparse).2 hend
          have hlast := List.getLast?_eq_some_getLast hservers
          exact ⟨_, _, delivered_of_getLast? hend hlast, rfl, .delivered phase hend hlast hasides⟩
  | pauseStopped phase set => exact ⟨_, _, rfl, rfl, .pauseStopped phase set⟩
  | proceedStopped phase clear set =>
      rw [readied_true] at set ⊢
      exact ⟨_, _, rfl, rfl, .proceedStopped phase set⟩
  | retried phase clear exchanges transport left =>
      have hset := clear.2
      simp only [State.Sound, phase] at hsound
      rw [readied_true] at exchanges hset
      obtain ⟨-, packet, tail, hlost, rfl⟩ := exchanges.fails hloses hsound
      refine ⟨_, _, rfl, ?_, .retried packet phase hset transport left hlost⟩
      simp
  | proceedFailed phase clear exchanges final =>
      have hset := clear.2
      simp only [State.Sound, phase] at hsound
      rw [readied_true] at exchanges hset
      obtain ⟨htransport, packet, tail, hlost, rfl⟩ := exchanges.fails hloses hsound
      have hspent : state.retriesLeft ≤ 0 := Int.not_lt.1 fun hleft => final ⟨htransport, hleft⟩
      exact ⟨_, _, afterFault_of_inFamily (Fault.inFamily_of_isTransport htransport),
        List.append_assoc .., .spent phase hset htransport hspent hlost⟩
  | @proceeded reply _ phase clear exchanges =>
      have hset := clear.2
      simp only [State.Sound, phase] at hsound
      rw [readied_true] at exchanges hset
      obtain ⟨packet, rfl⟩ := exchanges.arrives hsound
      obtain ⟨records, hrecords⟩ := decodeEvents_eq state reply
      refine ⟨_, _, settle_parse state reply, ?_, .proceeded packet records phase hset⟩
      rw [hrecords]
      simp
  | rested ended => cases hfinished.symm.trans ended

/-! ## what every passage does -/

theorem sound_decoded (state : State) (packet : List UInt8) : (state.decoded packet).Sound := by
  rw [State.decoded]
  cases hparse : Response.parse packet with
  | ok page => exact ⟨packet, hparse⟩
  | error fault => trivial

/-- The state that a passage leads to can be read. -/
theorem Passage.sound (h : Passage listing scenario listener socket state past next since)
    (hsound : state.Sound) : next.Sound := by
  cases h with
  | beginStopped | beginFailed | begun | awaitFailed | refused | finished | pauseStopped
  | proceedStopped | spent => trivial
  | awaited | proceeded => exact sound_decoded state _
  | delivered phase more ends =>
      simp only [State.Sound, phase] at hsound
      obtain ⟨reply, hparse⟩ := hsound
      exact (Response.parse_eq_ok hparse).1 _ (List.mem_of_getLast? ends)
  | retried packet phase =>
      simp only [State.Sound, phase] at hsound ⊢
      exact hsound

/-- Every passage adds something. -/
theorem Passage.ne_nil (h : Passage listing scenario listener socket state past next since) :
    since ≠ [] := by
  cases h <;> simp [preparation]

end Listing

end ServerBrowser
