import ServerBrowser.Address.Inet
import ServerBrowser.Fault

/-!
# Server addresses

A game server is named by the text of its IPv4 address and its port.  On the wire it is a record of
six bytes: the four bytes of the address and the port with its high byte first.  The record of six
zeros is no server: it opens a listing as a cursor and ends it as a record.
-/

namespace ServerBrowser

/-- The address of a game server. -/
structure ServerAddress where
  ip : String
  port : Int
deriving DecidableEq, Repr

namespace ServerAddress

/-- The address that opens and ends a listing. -/
def null : ServerAddress :=
  ⟨"0.0.0.0", 0⟩

/-- Whether an address is the null address. -/
def isNull (a : ServerAddress) : Bool :=
  a.ip = "0.0.0.0" && a.port = 0

theorem isNull_iff (a : ServerAddress) : a.isNull = true ↔ a = null := by
  cases a; simp [isNull, null]

/-- The address as one text. -/
def text (a : ServerAddress) : String :=
  s!"{a.ip}:{a.port}"

instance : ToString ServerAddress := ⟨text⟩

/-- The bytes of a record. -/
def recordSize : Nat := 6

/-- The two bytes of a port, the high one first. -/
def portBytes? (port : Int) : Option (List UInt8) :=
  if 0 ≤ port ∧ port < 0x10000 then
    some [UInt8.ofNat (port.toNat / 256), UInt8.ofNat (port.toNat % 256)]
  else none

/-- The record of an address. -/
def toBytes (a : ServerAddress) : Except Fault (List UInt8) :=
  if a.ip.toList.contains '\x00' then .error .embeddedNull
  else match Inet.parse? a.ip with
    | none => .error .badDotted
    | some ip =>
      match portBytes? a.port with
      | none => .error .unpackablePort
      | some port => .ok (ip ++ port)

/-- The port that two bytes stand for. -/
def portOf (high low : UInt8) : Int :=
  (256 * high.toNat + low.toNat : Nat)

/-- The address of a record. -/
def ofRecord (a b c d high low : UInt8) : ServerAddress :=
  ⟨Inet.dotted a b c d, portOf high low⟩

end ServerAddress

end ServerBrowser
