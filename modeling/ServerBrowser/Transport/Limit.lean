import ServerBrowser.Binary64
import ServerBrowser.Fault

/-!
# What system sockets refuse

A socket counts its time limit in nanoseconds, in 64 bits with a sign, and refuses one below zero.
The product with the number of nanoseconds in a second is rounded like any product, and then away
from zero to a whole number, so even the smallest time below zero is refused.

The host that a socket is connected to is looked up by its name.  A name beyond ASCII is looked up
in the form that the rules for international domain names give it, where they give it one; which
names those are is told by tables of characters that a system brings along.
-/

namespace ServerBrowser.Transport

/-- Why a time cannot be the time limit of a socket, where it cannot. -/
def limitFault? (seconds : Binary64) : Option Fault :=
  let nanoseconds := seconds.scaleBy 1000000000
  if seconds.isNaN then some .limitNaN
  else if !nanoseconds.isFinite || Int64.maxValue.toInt < nanoseconds.truncate ||
    nanoseconds.truncate < Int64.minValue.toInt then some .limitTooLarge
  else if seconds.isNegative && !seconds.isZero then some .limitNegative
  else none

/-- Why a port cannot be connected to, where it cannot. -/
def portFault? (port : Int) : Option Fault :=
  if 0 ≤ port ∧ port < 65536 then none else some .portRange

/-- Why a host cannot be connected to, where it cannot; `encodes` says of names beyond ASCII whether
the system has a form for them. -/
def hostFault? (encodes : String → Bool) (host : String) : Option Fault :=
  if !host.toList.all Text.isAscii && !encodes host then some .hostEncoding
  else if host.toList.contains '\x00' then some .hostNull
  else none

example : limitFault? 300 = none := by decide +kernel
example : limitFault? (Binary64.ofDecimal false 1 10) = some .limitTooLarge := by decide +kernel
example : limitFault? (Binary64.ofDecimal true 5 (-324)) = some .limitNegative := by
  decide +kernel
example : limitFault? (Binary64.zero true) = none := by decide +kernel

end ServerBrowser.Transport
