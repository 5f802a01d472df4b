import ServerBrowser.Transport.Limit

/-!
# Clocks

A clock keeps the delays of a query, and may refuse those that it cannot count.  The clock of a
system counts as its sockets do: in nanoseconds, in 64 bits with a sign.  Who waits for a signal is
not delayed at all where the time is not above zero, so only a time that is too large is refused
then.
-/

namespace ServerBrowser

/-- Why a clock refuses a delay, where it does. -/
structure Clock where
  sleepFault? : Binary64 → Option Fault
  /-- For those who wait for a signal that is not set. -/
  waitFault? : Binary64 → Option Fault

namespace Clock

/-- A clock that keeps every delay. -/
def patient : Clock where
  sleepFault? _ := none
  waitFault? _ := none

/-- The clock of a system. -/
def system : Clock where
  sleepFault? seconds :=
    match Transport.limitFault? seconds with
    | some .limitNegative => some .sleepNegative
    | refusal => refusal
  waitFault? seconds := if seconds.isPositive then Transport.limitFault? seconds else none

/-- Why a clock refuses a delay, where it does: one that waits for a signal, or one that sleeps. -/
def delayFault? (clock : Clock) (hasSignal : Bool) (seconds : Binary64) : Option Fault :=
  if hasSignal then clock.waitFault? seconds else clock.sleepFault? seconds

/-- Sleep as long as a clock does not refuse it. -/
def sleep (clock : Clock) (seconds : Binary64) : Except Fault Unit :=
  match clock.sleepFault? seconds with
  | some fault => .error fault
  | none => .ok ()

/-- Wait for a signal; whether it is set.  A signal that is set is not waited for. -/
def wait (clock : Clock) (seconds : Binary64) (isSet : Bool) : Except Fault Bool :=
  if isSet then .ok true
  else match clock.waitFault? seconds with
    | some fault => .error fault
    | none => .ok false

example : system.sleepFault? (Binary64.ofDecimal true 5 (-1)) = some .sleepNegative := by
  decide +kernel
example : system.waitFault? (Binary64.ofDecimal false 1 10) = some .limitTooLarge := by
  decide +kernel
example : system.waitFault? (Binary64.ofDecimal true 1 10) = none := by decide +kernel

end Clock

end ServerBrowser
