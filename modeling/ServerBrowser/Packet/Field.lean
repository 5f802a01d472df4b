import ServerBrowser.Fault

/-!
# Fields of outgoing packets

A packet is the concatenation of its fields: single bytes, byte strings, and texts in ASCII with a
zero byte at the end.
-/

namespace ServerBrowser.Packet

/-- One byte, of which only the value modulo 256 counts. -/
def byte (value : Int) : List UInt8 :=
  [UInt8.ofNat (value % 256).toNat]

/-- An ASCII text and the zero byte that ends it. -/
def cstring (text : String) : Except Fault (List UInt8) :=
  match Text.asciiBytes text with
  | .ok bytes => .ok (bytes ++ [0])
  | .error run => .error (.nonAscii run)

@[simp] theorem length_byte (value : Int) : (byte value).length = 1 := rfl

end ServerBrowser.Packet
