import ServerBrowser.Text.Blank
import ServerBrowser.Text.Hex
import ServerBrowser.Text.Numeral

/-!
# IPv4 addresses as text

The canonical text of an IPv4 address has four decimal numbers between dots.  `parse?` takes more
than `dotted` writes: one to four parts, each decimal, octal after a zero or hexadecimal after
`0x`, the last of which fills all bytes that are left; what follows a blank is not looked at.
-/

namespace ServerBrowser.Inet

open Text

/-- The canonical text of four bytes. -/
def dotted (a b c d : UInt8) : String :=
  s!"{a.toNat}.{b.toNat}.{c.toNat}.{d.toNat}"

/-- The value of a row of digits of a base. -/
def valueIn (radix : Nat) (digits : List Char) : Nat :=
  digits.foldl (fun n c => radix * n + (hexValue? c).getD 0) 0

/-- Whether a character is an octal digit. -/
def isOctal (c : Char) : Bool :=
  c.isDigit && c.toNat < 0x38

/-- Whether a character is a hexadecimal digit. -/
def isHex (c : Char) : Bool :=
  (hexValue? c).isSome

/-- Split a number off: hexadecimal after `0x`, octal after a zero, else decimal. -/
def splitPart (cs : List Char) : Nat × List Char :=
  let hexadecimal := fun rest : List Char =>
    (valueIn 16 (rest.takeWhile isHex), rest.dropWhile isHex)
  match cs with
  | '0' :: x :: h :: rest =>
    if (x = 'x' ∨ x = 'X') ∧ isHex h = true then hexadecimal (h :: rest)
    else (valueIn 8 (cs.takeWhile isOctal), cs.dropWhile isOctal)
  | '0' :: _ => (valueIn 8 (cs.takeWhile isOctal), cs.dropWhile isOctal)
  | _ => (valueIn 10 (cs.takeWhile Char.isDigit), cs.dropWhile Char.isDigit)

/-- The bytes of a number, as many as are left, the highest first. -/
def lastBytes : Nat → Nat → List UInt8
  | 0, _ => []
  | count + 1, n => UInt8.ofNat (n / Nat.pow 256 count % 256) :: lastBytes count n

/-- The bytes of the parts that follow, `left` bytes in all. -/
def parseParts : Nat → List Char → Option (List UInt8)
  | 0, _ => none
  | left + 1, cs =>
    if (cs.head?.map Char.isDigit).getD false then
      let (value, rest) := splitPart cs
      match rest with
      | '.' :: rest =>
        if left = 0 ∨ 0xFF < value then none
        else (parseParts left rest).map (UInt8.ofNat value :: ·)
      | _ =>
        if (rest.head?.map isAsciiBlank).getD true && value < Nat.pow 256 (left + 1) then
          some (lastBytes (left + 1) value)
        else none
    else none

/-- The four bytes of an address text. -/
def parse? (text : String) : Option (List UInt8) :=
  parseParts 4 text.toList

@[simp] theorem length_lastBytes (count n : Nat) : (lastBytes count n).length = count := by
  induction count with
  | zero => rfl
  | succ count ih => simp [lastBytes, ih]

theorem length_of_parseParts {left : Nat} {cs : List Char} {bytes : List UInt8}
    (h : parseParts left cs = some bytes) : bytes.length = left := by
  induction left generalizing cs bytes with
  | zero => simp [parseParts] at h
  | succ left ih =>
    simp only [parseParts] at h
    split at h
    · split at h
      · split at h
        · simp at h
        · obtain ⟨rest, hparsed, rfl⟩ := Option.map_eq_some_iff.1 h
          simp [ih hparsed]
      · split at h
        · obtain rfl := Option.some.inj h
          simp
        · simp at h
    · simp at h

end ServerBrowser.Inet
