import ServerBrowser.Scenario

/-!
# ServerBrowser.Proofs.Scenario

An action that is played in a scenario is a function of the browser and the history, and gives a
result, a browser and a history:

```
action browser history = ((result, browser'), history')
```

The equations here take a played action apart at its binds, and say what the operations of the
direct transport do to the history.  The second half reads the traffic of a listing off a history:
what was sent on its socket, what was received, which pages were handed to its listener, and how
often an answer was asked for in vain.  All that a listing does besides is quiet: it leaves the
traffic as it is (`traffic_append_quiet`).
-/

namespace ServerBrowser

namespace Scenario

variable {α β : Type} {browser browser' : Browser} {history history' : History}

/-! ## playing actions -/

/-- Every action that is played gives a result and leaves a browser and a history. -/
theorem exists_play (action : Play α) (browser : Browser) (history : History) :
    ∃ a browser' history', action browser history = ((a, browser'), history') :=
  ⟨_, _, _, rfl⟩

/-- A bind plays on from what its first action gives and leaves. -/
theorem play_bind {action : Play α} {next : α → Play β} {a : α}
    (h : action browser history = ((a, browser'), history')) :
    (action >>= next) browser history = next a browser' history' := by
  show next (action browser history).1.1 (action browser history).1.2 (action browser history).2 = _
  rw [h]

/-- What comes after a successful action plays on. -/
theorem run_bind_ok {action : ExceptT Fault Play α} {next : α → ExceptT Fault Play β} {a : α}
    (h : action.run browser history = ((.ok a, browser'), history')) :
    (action >>= next).run browser history = (next a).run browser' history' := by
  rw [ExceptT.run_bind, play_bind h]

/-- What comes after a failed action is not played. -/
theorem run_bind_error {action : ExceptT Fault Play α} {next : α → ExceptT Fault Play β}
    {fault : Fault} (h : action.run browser history = ((.error fault, browser'), history')) :
    (action >>= next).run browser history = ((.error fault, browser'), history') := by
  rw [ExceptT.run_bind, play_bind h]
  rfl

/-- An action whose faults are results of their own ends nothing. -/
theorem lift_play {action : Play α} {a : α}
    (h : action browser history = ((a, browser'), history')) :
    (ExceptT.lift action : ExceptT Fault Play α).run browser history =
      ((.ok a, browser'), history') := by
  show ((action >>= fun a => pure (Except.ok a)) : Play _) browser history = _
  rw [play_bind h]
  rfl

/-- Actions in a row whose faults are results of their own end nothing. -/
theorem forM_lift (action : β → Play Unit) (bs : List β) :
    (bs.forM fun b => (ExceptT.lift (action b) : ExceptT Fault Play Unit)) =
      ExceptT.lift (bs.forM action) := by
  induction bs with
  | nil => rfl
  | cons b bs ih =>
      show (ExceptT.lift (action b) >>= fun _ => bs.forM fun b => ExceptT.lift (action b)) =
        (ExceptT.lift (action b >>= fun _ => bs.forM action) : ExceptT Fault Play Unit)
      rw [ih]
      rfl

/-! ## the world of a scenario -/

/-- The world of a scenario over its direct transport. -/
abbrev world (scenario : Scenario) (cancellable : Bool) : Surroundings Play Nat :=
  scenario.surroundings scenario.direct cancellable

/-- Saying something appends it to the history. -/
theorem log_play (record : Log.Record) :
    (log record : Play Unit) browser history =
      (((), browser), history ++ [.logged record]) := rfl

/-- Saying several things appends them to the history. -/
theorem forM_log (records : List Log.Record) (browser : Browser) (history : History) :
    (records.forM log : Play Unit) browser history =
      (((), browser), history ++ records.map .logged) := by
  induction records generalizing history with
  | nil =>
      rw [List.map_nil, List.append_nil]
      rfl
  | cons record records ih =>
      have hcons : (((record :: records).forM log) : Play Unit) =
          (log record >>= fun _ => records.forM log) := rfl
      rw [hcons, play_bind (log_play record), ih]
      simp

/-- What comes of waiting for a packet: the scenario's fault, or a packet that is noted. -/
inductive Receives (scenario : Scenario) (socket : Nat) (history : History) :
    Except Fault (List UInt8) → History → Prop
  | lost {fault : Fault} (answer : scenario.receive (history ++ [.awaited socket none]) =
      .error fault) : Receives scenario socket history (.error fault)
      (history ++ [.awaited socket none])
  | arrived {packet : List UInt8} (answer : scenario.receive (history ++ [.awaited socket none]) =
      .ok packet) : Receives scenario socket history (.ok packet)
      (history ++ [.awaited socket none] ++ [.received socket packet])

theorem receive_direct (scenario : Scenario) (socket : Nat) (browser : Browser)
    (history : History) :
    ∃ result history', scenario.Receives socket history result history' ∧
      (scenario.direct.receive socket : Play _) browser history =
        ((result, browser), history') := by
  have hplay : (scenario.direct.receive socket : Play _) browser history =
      (noteReceived socket (scenario.receive (history ++ [.awaited socket none])) : Play _) browser
        (history ++ [.awaited socket none]) := rfl
  cases hanswer : scenario.receive (history ++ [.awaited socket none]) with
  | error fault => exact ⟨_, _, .lost hanswer, by rw [hplay, hanswer]; rfl⟩
  | ok packet => exact ⟨_, _, .arrived hanswer, by rw [hplay, hanswer]; rfl⟩

/-! ## the cancel signal -/

/-- What a look at the cancel signal leaves in the history: nothing where there is no signal. -/
def look (cancellable : Bool) : History :=
  if cancellable then [.checked] else []

/-- What a delay leaves in the history: with a signal it is the signal that is waited for. -/
def delay (cancellable : Bool) (seconds : Binary64) : History :=
  [if cancellable then .waited seconds else .slept seconds]

/-- Whether there is a cancel signal, and it is set. -/
def stops (scenario : Scenario) (cancellable : Bool) (history : History) : Bool :=
  cancellable && scenario.isCancelled history

theorem checkCancelled_play {S : Type} (scenario : Scenario) (transport : Transport Play S)
    (cancellable : Bool) (browser : Browser) (history : History) (clock : Clock := .patient) :
    (Listing.checkCancelled (scenario.surroundings transport cancellable clock)).run browser
        history =
      ((if scenario.stops cancellable (history ++ look cancellable) then .error .queryCancelled
        else .ok (), browser), history ++ look cancellable) := by
  cases cancellable with
  | false => simp [stops, look]; rfl
  | true =>
      have hplay :
          (Listing.checkCancelled (scenario.surroundings transport true clock)).run browser
            history =
          (if scenario.isCancelled (history ++ [.checked]) then
            (throw .queryCancelled : ExceptT Fault Play Unit) else pure ()).run browser
            (history ++ [.checked]) := rfl
      rw [hplay]
      cases hset : scenario.isCancelled (history ++ [.checked]) <;> simp [stops, look, hset] <;> rfl

/-- What comes of a delay: the signal stops it, or the clock refuses it, or it is kept. -/
def rests (scenario : Scenario) (cancellable : Bool) (clock : Clock) (seconds : Binary64)
    (history : History) : Except Fault Unit :=
  if scenario.stops cancellable history then .error .queryCancelled
  else match clock.delayFault? cancellable seconds with
    | some fault => .error fault
    | none => .ok ()

theorem pause_rests {S : Type} (scenario : Scenario) (transport : Transport Play S)
    (cancellable : Bool) (clock : Clock) (listing : Listing) (browser : Browser)
    (history : History) :
    (listing.pause (scenario.surroundings transport cancellable clock)).run browser history =
      ((scenario.rests cancellable clock listing.settings.retryDelay
          (history ++ delay cancellable listing.settings.retryDelay), browser),
        history ++ delay cancellable listing.settings.retryDelay) := by
  cases cancellable with
  | false => rfl
  | true =>
      have hpause : (listing.pause (scenario.surroundings transport true clock)).run =
          ((ExceptT.mk ((scenario.signal clock).wait listing.settings.retryDelay) :
            ExceptT Fault Play Bool) >>= fun set =>
              if set then throw .queryCancelled else pure ()).run := rfl
      have hwait : (ExceptT.mk ((scenario.signal clock).wait listing.settings.retryDelay) :
          ExceptT Fault Play Bool).run browser history =
            ((clock.wait listing.settings.retryDelay
              (scenario.isCancelled (history ++ [.waited listing.settings.retryDelay])), browser),
              history ++ [.waited listing.settings.retryDelay]) := rfl
      simp only [rests, Clock.delayFault?, stops, delay, if_true, Bool.true_and]
      rw [hpause]
      cases hset : scenario.isCancelled (history ++ [.waited listing.settings.retryDelay]) with
      | true =>
          rw [hset, Clock.wait, if_pos rfl] at hwait
          exact run_bind_ok hwait
      | false =>
          rw [hset, Clock.wait, if_neg Bool.false_ne_true] at hwait
          cases hrefused : clock.waitFault? listing.settings.retryDelay with
          | some fault =>
              rw [hrefused] at hwait
              exact run_bind_error hwait
          | none =>
              rw [hrefused] at hwait
              exact run_bind_ok hwait

/-- A patient clock keeps every delay that the signal does not stop. -/
theorem pause_play {S : Type} (scenario : Scenario) (transport : Transport Play S)
    (cancellable : Bool) (listing : Listing) (browser : Browser) (history : History) :
    (listing.pause (scenario.surroundings transport cancellable)).run browser history =
      ((if scenario.stops cancellable
          (history ++ delay cancellable listing.settings.retryDelay) then .error .queryCancelled
        else .ok (), browser), history ++ delay cancellable listing.settings.retryDelay) := by
  have hkept : Clock.patient.delayFault? cancellable listing.settings.retryDelay = none := by
    cases cancellable <;> rfl
  rw [pause_rests, rests, hkept]

end Scenario

/-! ## moments

A moment of a row of events is an event with all that comes before it: a front of the row that ends
with the event. -/

section Moments

variable {α : Type} {before first second row : List α} {event last : α}

/-- What happens at a moment of a row is in the row. -/
theorem mem_of_moment (h : before ++ [event] <+: row) : event ∈ row :=
  h.subset (List.mem_append_right before (List.mem_singleton_self event))

/-- A moment of a row with one more event is the last one, or one of the row. -/
theorem moment_concat (h : before ++ [event] <+: row ++ [last]) :
    (before = row ∧ event = last) ∨ before ++ [event] <+: row := by
  obtain heq | hbefore := List.prefix_concat_iff.1 h
  · obtain ⟨hrow, hlast⟩ := List.append_inj' heq rfl
    exact .inl ⟨hrow, (List.cons.inj hlast).1⟩
  · exact .inr hbefore

/-- A moment of a row that starts with an event is that event, or one of the rest after it. -/
theorem moment_cons (h : before ++ [event] <+: last :: row) :
    (before = [] ∧ event = last) ∨ ∃ between, before = last :: between ∧
      between ++ [event] <+: row := by
  cases before with
  | nil => exact .inl ⟨rfl, (List.cons_prefix_cons.1 h).1⟩
  | cons head between =>
      obtain ⟨rfl, hrest⟩ := List.cons_prefix_cons.1 h
      exact .inr ⟨between, rfl, hrest⟩

/-- A moment of two rows is one of the first, or one of the second after it. -/
theorem moment_append (h : before ++ [event] <+: first ++ second) :
    before ++ [event] <+: first ∨
      ∃ between, before = first ++ between ∧ between ++ [event] <+: second := by
  obtain hfirst | hfirst := List.prefix_or_prefix_of_prefix h (List.prefix_append first second)
  · exact .inl hfirst
  · obtain rfl | ⟨between, rfl⟩ := List.prefix_concat_iff.1 hfirst
    · exact .inl List.prefix_rfl
    · rw [List.append_assoc, List.prefix_append_right_inj] at h
      exact .inr ⟨between, rfl, h⟩

end Moments

/-! ## traffic -/

/-- The traffic of a listing: what went over its socket, and the pages its listener was given. -/
structure Traffic where
  /-- The packets that were sent, the first one first. -/
  sent : List (List UInt8) := []
  /-- The packets that were received. -/
  received : List (List UInt8) := []
  pages : List (List ServerAddress) := []
  /-- How many packets were sent since one was received. -/
  attempts : Nat := 0

/-- The traffic after one more event. -/
def Traffic.add (socket : Nat) (traffic : Traffic) : Event → Traffic
  | .sent other packet =>
    if other = socket then
      { traffic with sent := traffic.sent ++ [packet], attempts := traffic.attempts + 1 }
    else traffic
  | .received other packet =>
    if other = socket then { traffic with received := traffic.received ++ [packet], attempts := 0 }
    else traffic
  | .paged servers => { traffic with pages := traffic.pages ++ [servers] }
  | _ => traffic

/-- Whether an event leaves the traffic of a listing as it is: neither a packet on its socket nor a
page handed to its listener. -/
def Event.isQuiet (socket : Nat) : Event → Bool
  | .sent other _ | .received other _ => other != socket
  | .paged _ => false
  | _ => true

namespace History

/-- The traffic of the listing over a socket. -/
def traffic (socket : Nat) (history : History) : Traffic :=
  history.foldl (Traffic.add socket) {}

/-- Events that leave the traffic of a listing as it is. -/
def Quiet (socket : Nat) (more : History) : Prop :=
  ∀ event ∈ more, event.isQuiet socket = true

variable {socket : Nat} {history more : History}

@[simp] theorem traffic_append_singleton (event : Event) :
    traffic socket (history ++ [event]) = (traffic socket history).add socket event := by
  simp [traffic]

theorem Quiet.singleton {event : Event} (h : event.isQuiet socket = true) :
    Quiet socket [event] := by
  simpa [Quiet] using h

theorem Quiet.append {first second : History} (hfirst : Quiet socket first)
    (hsecond : Quiet socket second) : Quiet socket (first ++ second) := fun event hevent =>
  (List.mem_append.1 hevent).elim (hfirst event) (hsecond event)

theorem quiet_logged (records : List Log.Record) : Quiet socket (records.map .logged) :=
  fun event hevent => by
    obtain ⟨record, -, rfl⟩ := List.mem_map.1 hevent
    rfl

theorem quiet_look (cancellable : Bool) : Quiet socket (Scenario.look cancellable) := by
  cases cancellable <;> simp [Quiet, Scenario.look, Event.isQuiet]

theorem quiet_delay (cancellable : Bool) (seconds : Binary64) :
    Quiet socket (Scenario.delay cancellable seconds) := by
  cases cancellable <;> exact Quiet.singleton rfl

/-- Quiet events leave the traffic as it is. -/
theorem traffic_append_quiet (h : Quiet socket more) :
    traffic socket (history ++ more) = traffic socket history := by
  have hkeep : ∀ traffic : Traffic, more.foldl (Traffic.add socket) traffic = traffic := by
    induction more with
    | nil => intro traffic; rfl
    | cons event more ih =>
        obtain ⟨hevent, hmore⟩ := List.forall_mem_cons.1 h
        intro traffic
        have hadd : traffic.add socket event = traffic := by
          cases event <;> simp_all [Event.isQuiet, Traffic.add]
        rw [List.foldl_cons, hadd, ih hmore]
  rw [traffic, List.foldl_append, hkeep]
  rfl

/-- A packet that is waited for is no traffic yet. -/
theorem traffic_awaited (socket : Nat) (history : History) (size : Option Nat) :
    traffic socket (history ++ [.awaited socket size]) = traffic socket history :=
  traffic_append_quiet (Quiet.singleton rfl)

theorem traffic_logged (socket : Nat) (history : History) (record : Log.Record) :
    traffic socket (history ++ [.logged record]) = traffic socket history :=
  traffic_append_quiet (Quiet.singleton rfl)

theorem traffic_sent (socket : Nat) (history : History) (packet : List UInt8) :
    traffic socket (history ++ [.sent socket packet]) =
      { traffic socket history with
        sent := (traffic socket history).sent ++ [packet]
        attempts := (traffic socket history).attempts + 1 } := by
  simp [Traffic.add]

theorem traffic_received (socket : Nat) (history : History) (packet : List UInt8) :
    traffic socket (history ++ [.received socket packet]) =
      { traffic socket history with
        received := (traffic socket history).received ++ [packet]
        attempts := 0 } := by
  simp [Traffic.add]

theorem traffic_paged (socket : Nat) (history : History) (servers : List ServerAddress) :
    traffic socket (history ++ [.paged servers]) =
      { traffic socket history with pages := (traffic socket history).pages ++ [servers] } := by
  simp [Traffic.add]

end History

end ServerBrowser
