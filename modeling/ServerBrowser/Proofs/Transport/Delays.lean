import ServerBrowser.Proofs.Transport.Opening

/-!
# ServerBrowser.Proofs.Transport.Delays

Which delays are refused, and what comes of that.  The clock of a system refuses a delay as its
sockets refuse a time limit, with a fault that leaves the family (`Clock.system_leaves`).  In a
world of a scenario no delay is refused but those that its clock refuses (`Clock.not_refuses`).
-/

namespace ServerBrowser

open Scenario

variable {S : Type}

/-- Whether a delay in a world can be refused, and with which fault: whoever has no signal sleeps,
and whoever has one waits for it. -/
inductive Surroundings.Refuses (world : Surroundings Play S) (seconds : Binary64) (fault : Fault) :
    Prop
  | slept (uncancellable : world.cancel = none) (browser : Browser) (history : History)
    (answer : (world.sleep seconds browser history).1.1 = .error fault)
  | waited (signal : CancelSignal Play) (cancellable : world.cancel = some signal)
    (browser : Browser) (history : History)
    (answer : (signal.wait seconds browser history).1.1 = .error fault)

/-- A clock that keeps a delay makes no world refuse it. -/
theorem Clock.not_refuses {clock : Clock} {cancellable : Bool} {seconds : Binary64}
    (h : clock.delayFault? cancellable seconds = none) (scenario : Scenario)
    (transport : Transport Play S) (fault : Fault) :
    ¬ (scenario.surroundings transport cancellable clock).Refuses seconds fault := by
  intro hrefuses
  cases cancellable with
  | false =>
      cases hrefuses with
      | waited signal cancellable => cases cancellable
      | slept _ browser history answer =>
          have hsleep : clock.sleep seconds = .error fault := answer
          simp [Clock.sleep, show clock.sleepFault? seconds = none from h] at hsleep
  | true =>
      cases hrefuses with
      | slept uncancellable => cases uncancellable
      | waited signal cancellable browser history answer =>
          cases cancellable
          have hwait : clock.wait seconds (scenario.isCancelled (history ++ [.waited seconds])) =
              .error fault := answer
          rw [Clock.wait, show clock.waitFault? seconds = none from h] at hwait
          split at hwait <;> cases hwait

/-- A delay that the clock of a system refuses leaves the family. -/
theorem Clock.system_leaves {cancellable : Bool} {seconds : Binary64} {fault : Fault}
    (h : system.delayFault? cancellable seconds = some fault) : ¬ fault.IsExpected := by
  have hlimit {other : Fault} (hother : Transport.limitFault? seconds = some other) :
      ¬ other.IsExpected := (DatagramSocket.limitFault?_leaves hother).2
  cases cancellable with
  | true =>
      have hwait : (if seconds.isPositive then Transport.limitFault? seconds else none) =
          some fault := h
      split at hwait
      · exact hlimit hwait
      · cases hwait
  | false =>
      have hsleep : system.sleepFault? seconds = some fault := h
      simp only [system] at hsleep
      split at hsleep
      · cases hsleep
        simp [Fault.IsExpected]
        rfl
      · exact hlimit hsleep

end ServerBrowser
