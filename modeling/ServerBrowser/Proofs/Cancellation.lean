import ServerBrowser.Proofs.Scenario
import ServerBrowser.Scenario.Script

/-!
# ServerBrowser.Proofs.Cancellation

What it means to heed a cancel signal that stays set once it is set (`Scenario.Latches`).

* A query may do a few things after its signal is set: it finishes what it is at.  What it may still
  do is an allowance, and `Scenario.Halts` says of a part of a history that it takes from an
  allowance all that it does.  Parts in a row hand the allowance on (`Halts.append`); where the
  signal is seen not to be set, any allowance may follow (`Halts.of_clear`).
* Every packet is sent right after a look at the signal that has found it not to be set, and every
  packet but the first one on its socket after one delay as well (`Scenario.Guarded`).
-/

namespace ServerBrowser

/-- Whether a cancel signal stays set once it is set. -/
def Scenario.Latches (scenario : Scenario) : Prop :=
  ∀ history more, scenario.isCancelled history = true →
    scenario.isCancelled (history ++ more) = true

/-- The kinds of things that a query leaves off when it is cancelled. -/
inductive Deed where
  | send
  | receive
  | deliver
  | wait
deriving DecidableEq

/-- How many things of a kind may still be done once the signal is set: nothing is sent, and of the
others what the query is at is finished. -/
def Deed.most : Deed → Nat
  | send => 0
  | receive | deliver | wait => 1

/-- The kind of thing that an event is. -/
def Event.deed? : Event → Option Deed
  | .sent .. => some .send
  | .received .. => some .receive
  | .paged _ => some .deliver
  | .waited _ => some .wait
  | _ => none

/-- How many things of a kind are done. -/
def History.deedCount (history : History) (deed : Deed) : Nat :=
  history.countP fun event => event.deed? = some deed

namespace History

variable {history first second : History} {deed : Deed}

@[simp] theorem deedCount_nil (deed : Deed) : deedCount [] deed = 0 := rfl

theorem deedCount_append (first second : History) (deed : Deed) :
    deedCount (first ++ second) deed = first.deedCount deed + second.deedCount deed :=
  List.countP_append

theorem deedCount_cons (event : Event) (history : History) (deed : Deed) :
    deedCount (event :: history) deed =
      history.deedCount deed + if event.deed? = some deed then 1 else 0 := by
  simp [deedCount, List.countP_cons]

/-- Nothing is done where no event is a deed. -/
theorem deedCount_eq_zero (h : ∀ event ∈ history, event.deed? = none) (deed : Deed) :
    history.deedCount deed = 0 := by
  rw [deedCount, List.countP_eq_zero]
  intro event hevent
  simp [h event hevent]

end History

namespace Scenario

variable {scenario : Scenario} {past since first second more : History}
  {early between late : Deed → Nat}

/-! ## allowances -/

/-- That `since`, which comes after `past`, heeds the signal.  Where the signal is set at its
beginning, what it does is taken from the allowance `early`, and `late` is left at least; and after
any moment at which the signal is set no more is done than may be, with `late` still to come. -/
structure Halts (scenario : Scenario) (past since : History) (early late : Deed → Nat) : Prop where
  whole : scenario.isCancelled past = true →
    ∀ deed, since.deedCount deed + late deed ≤ early deed
  after : ∀ before rest, since = before ++ rest → scenario.isCancelled (past ++ before) = true →
    ∀ deed, rest.deedCount deed + late deed ≤ deed.most

/-- What an allowance covers heeds the signal. -/
theorem Halts.of_le (h : ∀ deed, since.deedCount deed + late deed ≤ early deed)
    (hearly : ∀ deed, early deed ≤ deed.most) : scenario.Halts past since early late where
  whole _ := h
  after before rest heq _ deed := by
    subst heq
    have hsince := h deed
    have hmost := hearly deed
    rw [History.deedCount_append] at hsince
    omega

/-- Where the signal is not set in the end it was not set before, and any allowance may follow. -/
theorem Halts.of_clear (hlatches : scenario.Latches)
    (hclear : scenario.isCancelled (past ++ since) = false) :
    scenario.Halts past since early late where
  whole hset := by
    cases (hlatches past since hset).symm.trans hclear
  after before rest heq hset := by
    subst heq
    have hstill := hlatches (past ++ before) rest hset
    rw [List.append_assoc] at hstill
    cases hstill.symm.trans hclear

/-- What is done while the signal is not set is not taken from any allowance. -/
theorem Halts.of_clear_singleton {event : Event} (hclear : scenario.isCancelled past = false)
    (hlate : ∀ deed, late deed ≤ deed.most) : scenario.Halts past [event] early late where
  whole hset := by cases hset.symm.trans hclear
  after before rest heq hset deed := by
    cases before with
    | nil =>
        rw [List.append_nil] at hset
        cases hset.symm.trans hclear
    | cons head before =>
        obtain ⟨-, hrest⟩ := List.cons.inj heq
        obtain ⟨rfl, rfl⟩ := List.append_eq_nil_iff.1 hrest.symm
        simpa using hlate deed

/-- A part of a history hands its allowance on to the next one. -/
theorem Halts.append (hlatches : scenario.Latches)
    (hfirst : scenario.Halts past first early between)
    (hsecond : scenario.Halts (past ++ first) second between late) :
    scenario.Halts past (first ++ second) early late where
  whole hset deed := by
    have hdone := hfirst.whole hset deed
    have hmore := hsecond.whole (hlatches past first hset) deed
    rw [History.deedCount_append]
    omega
  after before rest heq hset deed := by
    obtain ⟨middle, rfl, rfl⟩ | ⟨middle, rfl, rfl⟩ := List.append_eq_append_iff.1 heq
    -- The signal is set within the second part.
    · rw [← List.append_assoc] at hset
      exact hsecond.after middle rest rfl hset deed
    -- The signal is set within the first part, and so before the second one.
    · have hstill := hlatches (past ++ before) middle hset
      rw [List.append_assoc] at hstill
      have hdone := hfirst.after before middle rfl hset deed
      have hmore := hsecond.whole hstill deed
      rw [History.deedCount_append]
      omega

end Scenario

/-! ## looks before packets -/

/-- Whether an event may stand between a packet and the delay before the next one. -/
def Event.isCalm : Event → Bool
  | .sent .. | .waited _ | .slept _ | .checked => false
  | _ => true

/-- Events that are neither packets that are sent, nor delays, nor looks at the signal. -/
def History.Calm (more : History) : Prop :=
  ∀ event ∈ more, event.isCalm = true

/-- What stands before a packet that may be sent on a socket: a look at the signal.  Before it the
socket was opened, or the signal was waited for, once since the packet that was sent last. -/
inductive History.Prepared (delay : Binary64) (socket : Nat) : History → Prop
  | first (front : History) (master : MasterAddress) (timeout : Binary64) :
    Prepared delay socket (front ++ [.opened socket master timeout, .checked])
  | next {calm : History} (front : History) (packet : List UInt8) (still : calm.Calm) :
    Prepared delay socket (front ++ .sent socket packet :: calm ++ [.waited delay, .checked])

namespace History

variable {first second : History}

theorem Calm.append (hfirst : first.Calm) (hsecond : second.Calm) : Calm (first ++ second) := by
  intro event hevent
  obtain hevent | hevent := List.mem_append.1 hevent
  · exact hfirst event hevent
  · exact hsecond event hevent

theorem calm_logged (records : List Log.Record) : Calm (records.map .logged) := by
  simp [Calm, Event.isCalm]

/-- A packet that is prepared for is so whatever comes before. -/
theorem Prepared.after {delay : Binary64} {socket : Nat} {history : History}
    (h : Prepared delay socket history) (front : History) :
    Prepared delay socket (front ++ history) := by
  cases h with
  | first between master timeout =>
      rw [← List.append_assoc]
      exact .first (front ++ between) master timeout
  | next between packet still =>
      rw [← List.append_assoc, ← List.append_assoc]
      exact .next (front ++ between) packet still

end History

namespace Scenario

variable {scenario : Scenario} {delay : Binary64} {past since first second more : History}

/-- Whether every packet in `since`, which comes after `past`, is prepared for, and sent only where
the signal is not set. -/
def Guarded (scenario : Scenario) (delay : Binary64) (past since : History) : Prop :=
  ∀ before socket packet, before ++ [.sent socket packet] <+: since →
    before.Prepared delay socket ∧ scenario.isCancelled (past ++ before) = false

theorem Guarded.append (hfirst : scenario.Guarded delay past first)
    (hsecond : scenario.Guarded delay (past ++ first) second) :
    scenario.Guarded delay past (first ++ second) := by
  intro before socket packet h
  obtain hfront | ⟨between, rfl, hbetween⟩ := moment_append h
  · exact hfirst before socket packet hfront
  · obtain ⟨hprepared, hclear⟩ := hsecond between socket packet hbetween
    rw [List.append_assoc] at hclear
    exact ⟨hprepared.after first, hclear⟩

/-- Where nothing is sent there is nothing to guard. -/
theorem Guarded.of_unsent (h : ∀ event ∈ since, event.deed? ≠ some .send) :
    scenario.Guarded delay past since := by
  intro before socket packet hmoment
  exact absurd rfl (h _ (mem_of_moment hmoment))

theorem Guarded.append_unsent (h : scenario.Guarded delay past since)
    (hmore : ∀ event ∈ more, event.deed? ≠ some .send) :
    scenario.Guarded delay past (since ++ more) :=
  h.append (.of_unsent hmore)

/-- A packet may be sent where it is prepared for. -/
theorem Guarded.sent {socket : Nat} (h : scenario.Guarded delay past since)
    (hprepared : since.Prepared delay socket)
    (hclear : scenario.isCancelled (past ++ since) = false) (packet : List UInt8) :
    scenario.Guarded delay past (since ++ [.sent socket packet]) := by
  intro before other packet' hmoment
  obtain ⟨rfl, ⟨⟩⟩ | hfront := moment_concat hmoment
  · exact ⟨hprepared, hclear⟩
  · exact h before other packet' hfront

/-! ## heeding the signal -/

/-- That a query with a signal heeds it in `since`, which comes after `past`. -/
structure Heeds (scenario : Scenario) (delay : Binary64) (past since : History) : Prop where
  /-- Nothing is begun once the signal is set. -/
  halts : scenario.Halts past since (fun _ => 0) (fun _ => 0)
  guarded : scenario.Guarded delay past since
  /-- Delays are left to the signal. -/
  awake : ∀ seconds, .slept seconds ∉ since

theorem heeds_logged (records : List Log.Record) :
    scenario.Heeds delay past (records.map .logged) where
  halts := by
    refine .of_le ?_ fun _ => Nat.zero_le _
    intro deed
    have hnone : History.deedCount (records.map .logged) deed = 0 :=
      History.deedCount_eq_zero (by simp [Event.deed?]) deed
    simp [hnone]
  guarded := .of_unsent (by simp [Event.deed?])
  awake seconds := by simp

theorem Heeds.append (hlatches : scenario.Latches) (hfirst : scenario.Heeds delay past first)
    (hsecond : scenario.Heeds delay (past ++ first) second) :
    scenario.Heeds delay past (first ++ second) where
  halts := hfirst.halts.append hlatches hsecond.halts
  guarded := hfirst.guarded.append hsecond.guarded
  awake seconds := by
    rw [List.mem_append]
    rintro (h | h)
    · exact hfirst.awake seconds h
    · exact hsecond.awake seconds h

/-- Whether the signal is not set wherever a socket is opened in `since`, after `past`. -/
def OpensUnset (scenario : Scenario) (past since : History) : Prop :=
  ∀ before socket master timeout, before ++ [.opened socket master timeout] <+: since →
    scenario.isCancelled (past ++ (before ++ [.opened socket master timeout])) = false

theorem OpensUnset.append (hfirst : scenario.OpensUnset past first)
    (hsecond : scenario.OpensUnset (past ++ first) second) :
    scenario.OpensUnset past (first ++ second) := by
  intro before socket master timeout h
  obtain hfront | ⟨between, rfl, hbetween⟩ := moment_append h
  · exact hfirst before socket master timeout hfront
  · have hunset := hsecond between socket master timeout hbetween
    rwa [List.append_assoc, ← List.append_assoc first] at hunset

theorem opensUnset_of_forall (h : ∀ socket master timeout, .opened socket master timeout ∉ since) :
    scenario.OpensUnset past since := by
  intro before socket master timeout hmoment
  exact absurd (mem_of_moment hmoment) (h socket master timeout)

/-- Once the signal is set no socket is opened. -/
theorem OpensUnset.not_mem_of_set (h : scenario.OpensUnset past (first ++ second))
    (hlatches : scenario.Latches) (hset : scenario.isCancelled (past ++ first) = true)
    (socket : Nat) (master : MasterAddress) (timeout : Binary64) :
    .opened socket master timeout ∉ second := by
  intro hopened
  obtain ⟨before, after, rfl⟩ := List.append_of_mem hopened
  have hunset := h (first ++ before) socket master timeout ⟨after, by simp⟩
  have hstill := hlatches (past ++ first) (before ++ [.opened socket master timeout]) hset
  rw [List.append_assoc, ← List.append_assoc first] at hstill
  cases hstill.symm.trans hunset

/-- That a query was given too few steps to come to its end: it was allowed no more of them than
there were events, and two more at most than events before the signal was set. -/
structure CutShort (scenario : Scenario) (limit : Nat) (past since : History) : Prop where
  long : limit ≤ since.length
  prompt : ∀ before rest, since = before ++ rest →
    scenario.isCancelled (past ++ before) = true → limit ≤ before.length + 2

/-- What comes before a part that is cut short makes no difference. -/
theorem CutShort.after {limit : Nat} (h : scenario.CutShort limit (past ++ first) second)
    (hlatches : scenario.Latches) : scenario.CutShort limit past (first ++ second) where
  long := by
    have hlong := h.long
    rw [List.length_append]
    omega
  prompt before rest heq hset := by
    obtain ⟨middle, rfl, rfl⟩ | ⟨middle, rfl, rfl⟩ := List.append_eq_append_iff.1 heq
    · rw [← List.append_assoc] at hset
      have hprompt := h.prompt middle rest rfl hset
      rw [List.length_append]
      omega
    · have hstill := hlatches (past ++ before) middle hset
      rw [List.append_assoc, ← List.append_nil (past ++ (before ++ middle))] at hstill
      have hprompt := h.prompt [] second rfl hstill
      rw [List.length_nil] at hprompt
      omega

end Scenario

/-! ## scripts -/

namespace Script

theorem reached_mono {count more : Nat} {limit : Option Nat} (h : reached count limit = true)
    (hle : count ≤ more) : reached more limit = true := by
  cases limit with
  | none => cases h
  | some n =>
      simp only [reached, Bool.and_eq_true, decide_eq_true_eq] at h ⊢
      omega

/-- What sets the signal of a script is not undone by what happens later. -/
theorem isCancelled_append (cancel : CancelScript) {since : History} (later : History)
    (h : isCancelled cancel since = true) : isCancelled cancel (since ++ later) = true := by
  have hchecks : since.checkCount ≤ History.checkCount (since ++ later) := by
    simp [History.checkCount]
  have hwaits : since.waitCount ≤ History.waitCount (since ++ later) := by
    simp [History.waitCount]
  simp only [isCancelled, Bool.or_eq_true] at h ⊢
  obtain ((h | h) | h) | h := h
  · exact .inl (.inl (.inl h))
  · rw [List.contains_iff_mem] at h
    exact .inl (.inl (.inr (List.contains_iff_mem.2 (List.mem_append_left later h))))
  · exact .inl (.inr (reached_mono h hchecks))
  · exact .inr (reached_mono h hwaits)

/-- The signal of a script stays set. -/
theorem latches_scenario (scripts : List Script) (ending : Ending) (cancel : CancelScript)
    (start : Nat) : (scenario scripts ending cancel start).Latches := by
  intro history more h
  show isCancelled cancel ((history ++ more).drop start) = true
  rw [List.drop_append]
  exact isCancelled_append cancel _ h

end Script

end ServerBrowser
