import ServerBrowser.Address

/-!
# Reading fields off a packet

A field is taken from the front of the bytes that are left, and the rest is handed back.  When fewer
bytes are left than the field needs, it is said how many were needed and how many there were, and
nothing is taken.

A `Reader` keeps the packet and a place in it, and reads on after a field that was not there.
-/

namespace ServerBrowser.Packet

/-- The fault of a field that runs past the end. -/
def tooShort (needed : Nat) (bytes : List UInt8) : Fault :=
  .truncated needed bytes.length

/-- Take the four bytes of an address. -/
def readIp : List UInt8 → Except Fault (String × List UInt8)
  | a :: b :: c :: d :: rest => .ok (Inet.dotted a b c d, rest)
  | bytes => .error (tooShort 4 bytes)

/-- Take the two bytes of a port, the high one first. -/
def readPort : List UInt8 → Except Fault (Int × List UInt8)
  | high :: low :: rest => .ok (ServerAddress.portOf high low, rest)
  | bytes => .error (tooShort 2 bytes)

/-- Take a record: an address and a port. -/
def readAddress (bytes : List UInt8) : Except Fault (ServerAddress × List UInt8) := do
  let (ip, rest) ← readIp bytes
  let (port, rest) ← readPort rest
  return (⟨ip, port⟩, rest)

/-- A record of six bytes is read as the address it stands for. -/
@[simp] theorem readAddress_cons (a b c d high low : UInt8) (rest : List UInt8) :
    readAddress (a :: b :: c :: d :: high :: low :: rest) =
      .ok (.ofRecord a b c d high low, rest) := rfl

/-- A field of a packet. -/
inductive Field where
  | ip
  | port
deriving DecidableEq, Repr

/-- What a field holds. -/
inductive Field.Value where
  | ip (text : String)
  | port (number : Int)
deriving DecidableEq, Repr

/-- The bytes that a field takes. -/
def Field.size : Field → Nat
  | ip => 4
  | port => 2

/-- Take a field. -/
def readField : Field → List UInt8 → Except Fault (Field.Value × List UInt8)
  | .ip, bytes => (readIp bytes).map fun (text, rest) => (.ip text, rest)
  | .port, bytes => (readPort bytes).map fun (number, rest) => (.port number, rest)

/-! ## readers -/

/-- A reader of a packet: the packet stays whole, and the reader knows how far it has come. -/
structure Reader where
  packet : List UInt8
  /-- How many bytes are taken. -/
  taken : Nat := 0
deriving DecidableEq, Repr

namespace Reader

/-- How many bytes are left. -/
def remaining (r : Reader) : Int :=
  r.packet.length - r.taken

/-- The bytes that are left. -/
def rest (r : Reader) : List UInt8 :=
  r.packet.drop r.taken

/-- Take so many bytes; where fewer are left nothing is taken. -/
def take (r : Reader) (size : Nat) : Except Fault (List UInt8) × Reader :=
  if r.remaining < size then (.error (.truncated size r.remaining), r)
  else (.ok (r.rest.take size), { r with taken := r.taken + size })

/-- Take a field. -/
def read (r : Reader) (field : Field) : Except Fault Field.Value × Reader :=
  let (bytes, r) := r.take field.size
  (bytes.bind fun bytes => (readField field bytes).map (·.1), r)

/-- Take fields one after the other, whether the ones before were there or not. -/
def readAll (r : Reader) : List Field → List (Except Fault Field.Value) × Reader
  | [] => ([], r)
  | field :: fields =>
    let (answer, r) := r.read field
    let (answers, r) := r.readAll fields
    (answer :: answers, r)

end Reader

end ServerBrowser.Packet
