import ServerBrowser.Text.Quoted

/-!
# Bytes in hexadecimal

Packets are written as two lower-case hexadecimal digits a byte.  A dump for the log separates the
bytes by spaces and may be cut: it then shows the first bytes and counts those it leaves out.
-/

namespace ServerBrowser.Text

/-- The two hexadecimal digits of a byte. -/
def hexByte (b : UInt8) : String :=
  hexPadded 2 b.toNat

/-- Bytes without separators. -/
def hex (bytes : List UInt8) : String :=
  String.join (bytes.map hexByte)

/-- Bytes separated by spaces. -/
def spacedHex (bytes : List UInt8) : String :=
  " ".intercalate (bytes.map hexByte)

/-- The bytes that a cut dump shows: the first `limit` ones, or, when the limit is negative, all
but as many at the end. -/
def shownBytes (bytes : List UInt8) (limit : Int) : List UInt8 :=
  bytes.take (if 0 ≤ limit then limit else bytes.length + limit).toNat

/-- A dump of bytes, cut where they are more than the limit. -/
def hexDump (bytes : List UInt8) : Option Int → String
  | none => spacedHex bytes
  | some limit =>
    if limit < bytes.length then
      spacedHex (shownBytes bytes limit) ++ s!" ... (+{bytes.length - limit} bytes)"
    else spacedHex bytes

/-- The value of a hexadecimal digit of either case. -/
def hexValue? (c : Char) : Option Nat :=
  if c.isDigit then some (c.toNat - 0x30)
  else if 'a' ≤ c ∧ c ≤ 'f' then some (c.toNat - 0x61 + 10)
  else if 'A' ≤ c ∧ c ≤ 'F' then some (c.toNat - 0x41 + 10)
  else none

/-- The bytes that pairs of hexadecimal digits stand for. -/
def readHex? : List Char → Option (List UInt8)
  | [] => some []
  | [_] => none
  | high :: low :: rest => do
    let h ← hexValue? high
    let l ← hexValue? low
    let bytes ← readHex? rest
    return UInt8.ofNat (16 * h + l) :: bytes

end ServerBrowser.Text
