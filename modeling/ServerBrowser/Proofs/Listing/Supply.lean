import ServerBrowser.Proofs.Listing.Frame
import ServerBrowser.Proofs.Script

/-!
# ServerBrowser.Proofs.Listing.Supply

How many steps a listing takes at most over a socket on which so many packets may still arrive at
most (`Scenario.Rations`).  A packet that arrives is one less to come, and an attempt that is lost
uses up a retry, of which there are as many again after each page.  So every move needs fewer steps
after it than before (`Move.need_lt`), whatever the listener does to the browser and adds to the
history.

A row of scripts rations its packets by the entries that it has left for a socket
(`Script.rations`), and every socket that recites a row of entries by the packets among those that
are left (`Scenario.Recites.rations`).
-/

namespace ServerBrowser

open Scenario

variable {scripts : List Script} {ending : Script.Ending} {cancel : CancelScript}
  {start socket : Nat} {history history' : History}

/-! ## what may still arrive -/

/-- That no more packets arrive on a socket than are left after what has happened. -/
structure Scenario.Rations (scenario : Scenario) (socket : Nat) (left : History → Nat) : Prop where
  append_le : ∀ history more, left (history ++ more) ≤ left history
  arrived_lt : ∀ {history packet history'},
    scenario.Receives socket history (.ok packet) history' → left history' < left history

/-- How many entries are left of what a script gives to be received on a socket. -/
def Script.supply (scripts : List Script) (socket : Nat) (history : History) : Nat :=
  ((scripts[socket]?.map Script.receives).getD []).length - history.awaitCount socket

theorem History.awaitCount_append (history more : History) (socket : Nat) :
    awaitCount (history ++ more) socket = history.awaitCount socket + awaitCount more socket :=
  List.countP_append

theorem History.awaitCount_arrived (history : History) (socket : Nat) (packet : List UInt8) :
    awaitCount (history ++ [.awaited socket none] ++ [.received socket packet]) socket =
      history.awaitCount socket + 1 := by
  simp [awaitCount]

namespace Script

/-- Nothing that happens makes more entries. -/
theorem supply_append_le (scripts : List Script) (socket : Nat) (history more : History) :
    supply scripts socket (history ++ more) ≤ supply scripts socket history := by
  rw [supply, supply, History.awaitCount_append]
  omega

/-- A packet that arrives uses up an entry. -/
theorem supply_arrived_lt {packet : List UInt8}
    (h : (scenario scripts ending cancel start).Receives socket history (.ok packet) history') :
    supply scripts socket history' < supply scripts socket history := by
  cases h with
  | arrived answer =>
      have hahead : Ahead scripts socket history _ _ := ⟨rfl, rfl⟩
      rw [hahead.receive] at answer
      have hleft : 0 < supply scripts socket history := by
        rw [supply, ← List.length_drop]
        refine List.length_pos_iff.2 fun hnil => ?_
        rw [hnil] at answer
        cases answer
      have hcount := History.awaitCount_arrived history socket packet
      rw [supply] at hleft
      rw [supply, supply, hcount]
      omega

/-- **A row of scripts rations its packets.** -/
theorem rations (scripts : List Script) (ending : Ending) (cancel : CancelScript)
    (start socket : Nat) :
    (scenario scripts ending cancel start).Rations socket (supply scripts socket) :=
  ⟨supply_append_le scripts socket, supply_arrived_lt⟩

end Script

/-- That what is received on a socket is a row of entries, one after the other; where the row is
used up, nothing is received. -/
def Scenario.Recites (scenario : Scenario) (socket : Nat)
    (entries : List (Except Fault (List UInt8))) : Prop :=
  ∀ history : History, ∃ ended : Fault, scenario.receive (history ++ [.awaited socket none]) =
    entries[history.awaitCount socket]?.getD (.error ended)

/-- How many packets are left in a row of entries. -/
def packetsLeft (entries : List (Except Fault (List UInt8))) (socket : Nat) (history : History) :
    Nat :=
  (entries.drop (history.awaitCount socket)).countP Except.isOk

theorem packetsLeft_le (entries : List (Except Fault (List UInt8))) (socket : Nat)
    (history : History) : packetsLeft entries socket history ≤ entries.countP Except.isOk :=
  (List.drop_sublist _ entries).countP_le

/-- **A socket that recites a row of entries rations its packets.**  What may still arrive are the
packets that are left in the row, however many losses there are between them. -/
theorem Scenario.Recites.rations {scenario : Scenario}
    {entries : List (Except Fault (List UInt8))} (h : scenario.Recites socket entries) :
    scenario.Rations socket (packetsLeft entries socket) where
  append_le history more := by
    rw [packetsLeft, packetsLeft, History.awaitCount_append, ← List.drop_drop]
    exact (List.drop_sublist _ _).countP_le
  arrived_lt {history packet history'} hreceives := by
    cases hreceives with
    | arrived answer =>
        obtain ⟨ended, hrecites⟩ := h history
        rw [hrecites] at answer
        have hentry : entries[history.awaitCount socket]? = some (.ok packet) := by
          cases hentry : entries[history.awaitCount socket]? with
          | none => rw [hentry] at answer; cases answer
          | some entry => rw [hentry] at answer; exact congrArg some answer
        obtain ⟨hlength, hpacket⟩ := List.getElem?_eq_some_iff.1 hentry
        rw [packetsLeft, packetsLeft, History.awaitCount_arrived,
          List.drop_eq_getElem_cons hlength, hpacket, List.countP_cons_of_pos rfl]
        exact Nat.lt_succ_self _

/-- A row of scripts has each socket recite its receives. -/
theorem Script.recites (scripts : List Script) (ending : Ending) (cancel : CancelScript)
    (start socket : Nat) :
    (scenario scripts ending cancel start).Recites socket
      ((scripts[socket]?.map Script.receives).getD []) := by
  intro history
  have hahead : Ahead scripts socket history _ _ := ⟨rfl, rfl⟩
  exact ⟨ending.noReceive, by rw [hahead.receive, List.head?_drop]⟩

namespace Listing

variable {listing : Listing} {scenario : Scenario} {cancellable : Bool} {listener : Listener Play}
  {state next : State} {browser browser' : Browser} {left : History → Nat}

/-! ## the steps that are needed -/

/-- How many steps a listing needs at most, given how many times a continuation is tried again and
how many packets may still arrive. -/
def State.need (retries supply : Nat) (state : State) : Nat :=
  match state.phase with
  | .start => 2 + supply * (retries + 2)
  | .awaiting => 1 + supply * (retries + 2)
  | .delivering => (supply + 1) * (retries + 2)
  | .continuing => state.retriesLeft.toNat + 1 + supply * (retries + 2)
  | .done | .failed => 0

theorem need_initial (listing : Listing) (retries supply : Nat) :
    listing.initial.need retries supply = 2 + supply * (retries + 2) :=
  rfl

/-- A listing that needs no more steps is over. -/
theorem isFinished_of_need {retries supply : Nat} (h : state.need retries supply = 0) :
    state.isFinished = true := by
  cases phase : state.phase with
  | done | failed => simp [State.isFinished, phase]
  | start | awaiting | delivering | continuing => simp [State.need, phase] at h

/-- A listing that was ended needs no more steps. -/
theorem need_endedBy (state : State) (fault : Fault) (retries supply : Nat) :
    (state.endedBy fault).need retries supply = 0 :=
  rfl

theorem need_of_afterFault {fault : Fault} (h : state.afterFault fault = .ok next)
    (retries supply : Nat) : next.need retries supply = 0 := by
  rw [State.afterFault] at h
  split at h
  · cases h
    exact need_endedBy state fault retries supply
  · cases h

/-- After a packet a page is to be delivered, or the listing is over. -/
theorem need_decoded_le {packet : List UInt8} (retries supply : Nat)
    (h : state.settle ((Response.parse packet).map state.withPage) = .ok next) :
    next.need retries supply ≤ (supply + 1) * (retries + 2) := by
  cases hparse : Response.parse packet with
  | error fault =>
      rw [hparse] at h
      rw [need_of_afterFault (show state.afterFault fault = .ok next from h)]
      exact Nat.zero_le _
  | ok page =>
      rw [hparse] at h
      obtain rfl : state.withPage page = next := Except.ok.inj h
      exact Nat.le_refl _

/-- After a delivery the retries are all there again. -/
theorem need_delivered_lt {left : List ServerAddress} (supply : Nat)
    (h : listing.delivered state left = .ok next) :
    next.need listing.settings.retryCount supply <
      (supply + 1) * (listing.settings.retryCount + 2) := by
  have hwhole : (supply + 1) * (listing.settings.retryCount + 2) =
      supply * (listing.settings.retryCount + 2) + (listing.settings.retryCount + 2) :=
    Nat.succ_mul _ _
  cases hlast : state.page.isLast with
  | true =>
      rw [delivered_of_isLast left hlast, Except.ok.injEq] at h
      subst h
      simp [State.need]
  | false =>
      cases hleft : left.getLast? with
      | none =>
          rw [List.getLast?_eq_none_iff] at hleft
          rw [hleft, delivered_nil hlast] at h
          cases h
      | some last =>
          rw [delivered_of_getLast? hlast hleft, Except.ok.injEq] at h
          subst h
          simp only [State.need, Int.toNat_natCast]
          omega

theorem need_mono (state : State) (retries : Nat) {fewer more : Nat} (h : fewer ≤ more) :
    state.need retries fewer ≤ state.need retries more := by
  have hmul : fewer * (retries + 2) ≤ more * (retries + 2) := Nat.mul_le_mul_right _ h
  have hmul' : (fewer + 1) * (retries + 2) ≤ (more + 1) * (retries + 2) :=
    Nat.mul_le_mul_right _ (Nat.succ_le_succ h)
  cases phase : state.phase <;> simp only [State.need, phase] <;> omega

/-- A packet that an attempt to continue brings is one less to come. -/
theorem Exchanges.left_lt {cursor : ServerAddress} {packet : List UInt8}
    (h : listing.Exchanges scenario socket cursor (listing.readied cancellable history) (.ok packet)
      history')
    (hrations : scenario.Rations socket left) : left history' < left history := by
  obtain ⟨readied, hreadied⟩ :
      ∃ readied, listing.readied cancellable history = history ++ readied :=
    ⟨_, List.append_assoc ..⟩
  have hready : left (listing.readied cancellable history) ≤ left history := by
    rw [hreadied]
    exact hrations.append_le ..
  cases h with
  | asked asks receives =>
      obtain ⟨more, rfl, -⟩ := asks.frame
      exact Nat.lt_of_lt_of_le (hrations.arrived_lt receives)
        (Nat.le_trans (hrations.append_le ..) hready)

/-- **Every move leaves fewer steps to be taken**, if what the listener does comes after what has
happened before. -/
theorem Move.need_lt
    (h : Move listing scenario cancellable listener socket state browser history (.ok next) browser'
      history')
    (hrations : scenario.Rations socket left) (hfinished : state.isFinished = false)
    (hgrows : ∀ page browser history, ∃ more,
      (listener page browser history).2 = history ++ more) :
    next.need listing.settings.retryCount (left history') <
      state.need listing.settings.retryCount (left history) := by
  have hsupply : left history' ≤ left history := by
    obtain ⟨-, more, rfl, -⟩ | ⟨handed, hlistens⟩ := h.frame
    · exact hrations.append_le ..
    · obtain ⟨more, hmore⟩ := hgrows state.page.servers browser history
      obtain rfl : history' = history ++ more := by rw [← hmore, hlistens]
      exact hrations.append_le ..
  have hmono := need_mono next listing.settings.retryCount hsupply
  have hpositive : 0 < state.need listing.settings.retryCount (left history) := by
    rw [Nat.pos_iff_ne_zero]
    intro hnone
    simp [isFinished_of_need hnone] at hfinished
  -- A packet leads to a page to be delivered, with one less to come.
  have hreceived : ∀ {packet : List UInt8},
      left history' < left history →
      state.settle ((Response.parse packet).map state.withPage) = .ok next →
      left history * (listing.settings.retryCount + 2) <
        state.need listing.settings.retryCount (left history) →
      next.need listing.settings.retryCount (left history') <
        state.need listing.settings.retryCount (left history) := by
    intro packet hless hdecoded hneed
    have hnext := need_decoded_le listing.settings.retryCount (left history') hdecoded
    have hmul := Nat.mul_le_mul_right (listing.settings.retryCount + 2) (Nat.succ_le_of_lt hless)
    exact Nat.lt_of_le_of_lt (Nat.le_trans hnext hmul) hneed
  generalize hresult : (Except.ok next : Except Fault State) = result at h
  cases h with
  | beginStopped | listenerFailed | pauseStopped | proceedStopped =>
      cases hresult
      exact hpositive
  | beginFailed | awaitFailed | proceedFailed =>
      rw [need_of_afterFault hresult.symm]
      exact hpositive
  | begun phase clear asks =>
      cases hresult
      refine Nat.lt_of_le_of_lt hmono ?_
      simp only [State.need, phase]
      omega
  | awaited phase receives =>
      have hless := hrations.arrived_lt receives
      refine hreceived (Nat.lt_of_le_of_lt (hrations.append_le ..) hless) hresult.symm ?_
      simp only [State.need, phase]
      omega
  | delivered phase =>
      rw [settle_delivered] at hresult
      have hnext := need_delivered_lt (left history') hresult.symm
      have hmul := Nat.mul_le_mul_right (listing.settings.retryCount + 2) (Nat.succ_le_succ hsupply)
      simp only [State.need, phase] at hnext ⊢
      exact Nat.lt_of_lt_of_le hnext hmul
  | retried phase =>
      cases hresult
      refine Nat.lt_of_le_of_lt hmono ?_
      simp only [State.need, phase]
      omega
  | proceeded phase clear exchanges =>
      have hless := exchanges.left_lt hrations
      refine hreceived (Nat.lt_of_le_of_lt (hrations.append_le ..) hless) hresult.symm ?_
      simp only [State.need, phase]
      omega
  | rested phase => simp [phase] at hfinished

end Listing

end ServerBrowser
