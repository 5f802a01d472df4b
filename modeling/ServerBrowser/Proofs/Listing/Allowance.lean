import ServerBrowser.Proofs.Cancellation
import ServerBrowser.Proofs.Listing.Passage

/-!
# ServerBrowser.Proofs.Listing.Allowance

What a listing may still do once its cancel signal is set, and how soon it ends then.  Both depend on
its phase: a listing that awaits a packet may receive it, hand on its page and come to the next
delay, which is over at once.

A passage takes what it does from the allowance of the phase it starts in, and leaves that of the
phase it leads to (`Passage.halts`).  With the signal set it leads closer to the end
(`Passage.stepsLeft_lt`).
-/

namespace ServerBrowser.Listing

open Scenario

/-- What a listing may still do in a phase once the signal is set. -/
def Phase.allowance : Phase → Deed → Nat
  | .start, _ | .done, _ | .failed, _ => 0
  | .awaiting, .send => 0
  | .awaiting, .receive | .awaiting, .deliver | .awaiting, .wait => 1
  | .delivering, .send | .delivering, .receive => 0
  | .delivering, .deliver | .delivering, .wait => 1
  | .continuing, .send | .continuing, .receive | .continuing, .deliver => 0
  | .continuing, .wait => 1

theorem allowance_le_most (phase : Phase) (deed : Deed) : phase.allowance deed ≤ deed.most := by
  cases phase <;> cases deed <;> decide

variable {listing : Listing} {scenario : Scenario} {listener : Listener Play} {socket : Nat}
  {past since more : History} {state next : State} {early late : Deed → Nat}

/-! ## what may still be done -/

theorem deedCount_asides {asides : History} (h : asides.Asides) (deed : Deed) :
    asides.deedCount deed = 0 :=
  History.deedCount_eq_zero h.all deed

theorem deedCount_logged (records : List Log.Record) (deed : Deed) :
    History.deedCount (records.map .logged) deed = 0 :=
  deedCount_asides (History.asides_logged records) deed

/-- The state that a packet leads to has a page to be delivered at most. -/
theorem allowance_decoded_le (state : State) (packet : List UInt8) (deed : Deed) :
    (state.decoded packet).phase.allowance deed ≤ Phase.delivering.allowance deed := by
  rw [State.decoded]
  cases Response.parse packet with
  | ok page => exact Nat.le_refl _
  | error fault => exact Nat.zero_le _

/-- A packet that is received and decoded is what was awaited. -/
theorem deedCount_replied_le (state : State) (socket : Nat) (reply : List UInt8)
    (records : List Log.Record) (deed : Deed) :
    History.deedCount ([.awaited socket none, .received socket reply] ++ records.map .logged) deed +
      (state.decoded reply).phase.allowance deed ≤ Phase.awaiting.allowance deed := by
  have hnext := allowance_decoded_le state reply deed
  rw [History.deedCount_append, deedCount_logged]
  cases deed <;> simp [History.deedCount_cons, Event.deed?, Phase.allowance] at hnext ⊢ <;> omega

/-- An attempt that sends was not stopped, and so takes nothing from the allowance before it. -/
theorem halts_attempt {packet : List UInt8} {tail : History} (hlatches : scenario.Latches)
    (hclear : scenario.isCancelled (past ++ listing.preparation) = false)
    (htail : ∀ deed, tail.deedCount deed + late deed ≤ Phase.awaiting.allowance deed) :
    scenario.Halts past (listing.preparation ++ .sent socket packet :: tail) early late := by
  have hprepared : scenario.Halts past listing.preparation early Phase.awaiting.allowance :=
    .of_clear hlatches hclear
  have hsent : scenario.Halts (past ++ listing.preparation) [.sent socket packet]
      Phase.awaiting.allowance Phase.awaiting.allowance :=
    .of_clear_singleton hclear (allowance_le_most .awaiting)
  have hrest : scenario.Halts (past ++ listing.preparation ++ [.sent socket packet]) tail
      Phase.awaiting.allowance late := .of_le htail (allowance_le_most .awaiting)
  exact hprepared.append hlatches (hsent.append hlatches hrest)

/-- **A passage takes what it does from the allowance of its phase.** -/
theorem Passage.halts (h : Passage listing scenario listener socket state past next more)
    (hlatches : scenario.Latches) :
    scenario.Halts past more state.phase.allowance next.phase.allowance := by
  cases h with
  | beginStopped phase set =>
      refine .of_le ?_ (allowance_le_most _)
      intro deed
      simp [phase, History.deedCount_cons, Event.deed?, State.endedBy, Phase.allowance]
  | beginFailed phase clear transport | begun phase clear =>
      have hlooked : scenario.Halts past [.checked] state.phase.allowance
          Phase.awaiting.allowance := .of_clear hlatches clear
      exact hlooked.append hlatches (.of_clear_singleton clear (allowance_le_most _))
  | awaitFailed phase transport =>
      refine .of_le ?_ (allowance_le_most _)
      intro deed
      simp [phase, History.deedCount_cons, Event.deed?, State.endedBy, Phase.allowance]
  | awaited records phase =>
      rw [phase]
      exact .of_le (deedCount_replied_le state socket _ records) (allowance_le_most .awaiting)
  | refused phase aside | finished phase last aside | delivered phase more ends aside =>
      refine .of_le ?_ (allowance_le_most _)
      intro deed
      rw [phase, History.deedCount_cons, deedCount_asides aside]
      cases deed <;> simp [Event.deed?, State.endedBy, Phase.allowance]
  | pauseStopped phase set | proceedStopped phase set =>
      refine .of_le ?_ (allowance_le_most _)
      intro deed
      cases deed <;> simp [phase, preparation, History.deedCount_cons, Event.deed?, State.endedBy,
        Phase.allowance]
  | retried packet phase clear transport left lost =>
      refine halts_attempt hlatches clear ?_
      intro deed
      cases lost <;> cases deed <;>
        simp [phase, History.deedCount_cons, Event.deed?, Phase.allowance]
  | spent phase clear transport left lost =>
      refine halts_attempt hlatches clear ?_
      intro deed
      cases lost <;>
        simp [History.deedCount_cons, Event.deed?, State.endedBy, Phase.allowance]
  | proceeded packet records phase clear =>
      exact halts_attempt hlatches clear (deedCount_replied_le state socket _ records)

/-! ## how soon a listing ends -/

/-- How many steps a listing may still take in a phase where the signal is set. -/
def Phase.stepsLeft : Phase → Nat
  | .start | .continuing => 1
  | .awaiting => 3
  | .delivering => 2
  | .done | .failed => 0

theorem stepsLeft_le (phase : Phase) : phase.stepsLeft ≤ 3 := by
  cases phase <;> decide

theorem stepsLeft_pos (h : state.isFinished = false) : 0 < state.phase.stepsLeft := by
  cases hphase : state.phase <;> simp_all [State.isFinished, Phase.stepsLeft]

theorem stepsLeft_decoded_le (state : State) (packet : List UInt8) :
    (state.decoded packet).phase.stepsLeft ≤ 2 := by
  rw [State.decoded]
  cases Response.parse packet with
  | ok page => exact Nat.le_refl 2
  | error fault => exact Nat.zero_le 2

/-- Where the signal is set every passage leads closer to the end. -/
theorem Passage.stepsLeft_lt (h : Passage listing scenario listener socket state past next more)
    (hlatches : scenario.Latches) (hset : scenario.isCancelled past = true) :
    next.phase.stepsLeft < state.phase.stepsLeft := by
  cases h with
  | beginStopped phase | awaitFailed phase | refused phase | finished phase | delivered phase
  | pauseStopped phase | proceedStopped phase =>
      simp [phase, State.endedBy, Phase.stepsLeft]
  | awaited records phase =>
      rw [phase]
      exact Nat.lt_succ_of_le (stepsLeft_decoded_le state _)
  | beginFailed _ clear | begun _ clear => cases (hlatches past [.checked] hset).symm.trans clear
  | retried _ _ clear | spent _ clear | proceeded _ _ _ clear =>
      cases (hlatches past listing.preparation hset).symm.trans clear

end ServerBrowser.Listing
