import ServerBrowser.Json
import ServerBrowser.Log.Level
import ServerBrowser.Settings
import ServerBrowser.Settings.Number

/-!
# Reading the fields of settings

Settings are read from the members of an object.  A field that has no member keeps its default, a
member that is no field is ignored, and the complaints come in the order of the fields.
-/

namespace ServerBrowser.Settings

/-- A whole number within bounds, both included. -/
abbrev Within (low high : Nat) := { n : Nat // low ≤ n ∧ n ≤ high }

/-- A whole number of which the smallest value is given. -/
abbrev AtLeast (low : Nat) := { n : Nat // low ≤ n }

/-- Read the member of a name, or take the default where there is none. -/
def readMember (members : Json.Members) (name : String) (default : α)
    (read : Json → Except Complaint.Reason α) : Checked α :=
  match Json.find? members name with
  | none => .ok default
  | some value => (read value).mapError fun reason => [⟨[name], reason⟩]

/-- Read a text. -/
def readText : Json → Except Complaint.Reason String
  | .str text => .ok text
  | _ => .error .notText

/-- Read a port: above zero and below 65536. -/
def readPort (value : Json) : Except Complaint.Reason (Within 1 65535) := do
  let n ← readWhole value
  if low : n ≤ 0 then .error .notAbove
  else if high : 65536 ≤ n then .error .notBelow
  else .ok ⟨n.toNat, by omega, by omega⟩

/-- Read a region: a byte. -/
def readRegion (value : Json) : Except Complaint.Reason (Within 0 255) := do
  let n ← readWhole value
  if n < 0 then .error .tooSmall
  else if high : 255 < n then .error .tooLarge
  else .ok ⟨n.toNat, by omega, by omega⟩

/-- Read a budget: above zero. -/
def readBudget (value : Json) : Except Complaint.Reason (AtLeast 1) := do
  let n ← readWhole value
  if low : n ≤ 0 then .error .notAbove else .ok ⟨n.toNat, by omega⟩

/-- Read a count: zero or above. -/
def readCount (value : Json) : Except Complaint.Reason Nat := do
  let n ← readWhole value
  if n < 0 then .error .tooSmall else .ok n.toNat

/-- Read a time to wait: above zero. -/
def readTimeout (value : Json) : Except Complaint.Reason Binary64 := do
  let x ← readReal value
  if x.isPositive then .ok x else .error .notAbove

/-- Read a delay: zero or above. -/
def readDelay (value : Json) : Except Complaint.Reason Binary64 := do
  let x ← readReal value
  if x.isNonNegative then .ok x else .error .tooSmall

/-- Read settings from the members of an object. -/
def ofMembers (members : Json.Members) : Checked Settings :=
  let host := readMember members "host" standard.host readText
  let port := readMember members "port"
    (⟨standard.port, standard.port_pos, Nat.le_of_lt_succ standard.port_lt⟩ : Within 1 65535)
    readPort
  let timeout := readMember members "timeout" standard.timeout readTimeout
  let budget := readMember members "max_filter_length"
    (⟨standard.filterBudget, standard.filterBudget_pos⟩ : AtLeast 1) readBudget
  let count := readMember members "retry_count" standard.retryCount readCount
  let delay := readMember members "retry_delay" standard.retryDelay readDelay
  let region := readMember members "region"
    (⟨standard.region, Nat.zero_le _, standard.region_le⟩ : Within 0 255) readRegion
  (host.both (port.both (timeout.both (budget.both (count.both (delay.both region)))))).map
    fun (host, port, timeout, budget, count, delay, region) =>
      { host, timeout
        port := port.val
        filterBudget := budget.val
        retryCount := count
        retryDelay := delay
        region := region.val
        port_pos := port.property.1
        port_lt := Nat.lt_succ_of_le port.property.2
        filterBudget_pos := budget.property
        region_le := region.property.2 }

/-- Read a level name; it is kept in capitals. -/
def readLevel : Json → Except Complaint.Reason String
  | .str text =>
    match Log.namedLevel? text with
    | some (name, _) => .ok name
    | none => .error (.refused (.unknownLevel text))
  | _ => .error .notText

/-- Read the level of the log. -/
def levelOfMembers (members : Json.Members) : Checked String :=
  readMember members "level" "INFO" readLevel

end ServerBrowser.Settings
