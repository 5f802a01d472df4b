import ServerBrowser.Address.Master
import ServerBrowser.Binary64
import ServerBrowser.Region

/-!
# Settings

Where the master server is, how long to wait for it, how often to try again, how many bytes of
filters go into one packet, and which region to ask for.  The numbers keep their bounds by their
type; the two times are bounded where settings are read, and `Settings.IsPaced` says how.
-/

namespace ServerBrowser

/-- The settings of a query. -/
structure Settings where
  host : String := "hl2master.steampowered.com"
  port : Nat := 27011
  /-- Seconds to wait for each response. -/
  timeout : Binary64 := 300
  /-- The budget for the filters in one packet, in bytes. -/
  filterBudget : Nat := 190
  /-- How often a continuation is tried again. -/
  retryCount : Nat := 4
  /-- Seconds between one continuation and the next. -/
  retryDelay : Binary64 := 2
  region : Nat := Region.all.code
  port_pos : 0 < port := by decide
  port_lt : port < 65536 := by decide
  filterBudget_pos : 0 < filterBudget := by decide
  region_le : region ≤ 255 := by decide
deriving DecidableEq

namespace Settings

/-- The address of the master server. -/
def address (s : Settings) : String :=
  s!"{s.host}:{s.port}"

/-- The master server as listings are given it. -/
def master (s : Settings) : MasterAddress :=
  .text s.address

/-- The bounds that reading puts on the two times: a wait that is above zero and a delay that is
not below it. -/
def IsPaced (s : Settings) : Prop :=
  s.timeout.isPositive = true ∧ s.retryDelay.isNonNegative = true

instance (s : Settings) : Decidable s.IsPaced :=
  inferInstanceAs (Decidable (_ ∧ _))

/-- The settings where nothing is given. -/
def standard : Settings := {}

theorem isPaced_standard : standard.IsPaced := by
  decide +kernel

/-- The same settings with another time to wait, which is not checked. -/
def withTimeout (s : Settings) (timeout : Binary64) : Settings :=
  { s with timeout }

end Settings

end ServerBrowser
