/-!
# Binary floating point numbers of 64 bits

Times are numbers of the 64-bit binary format of IEEE 754.  A number is its word; its value is read
off the sign, the significand and the exponent, and every operation works on that exact value and
rounds once, a half going to the even neighbour.

* `significand`, `exponent`: the size of a finite number is `significand * 2 ^ exponent`;
* `ofRatio`: the number nearest to a quotient of naturals.
-/

namespace ServerBrowser

/-- A number of the 64-bit binary format, as its word. -/
structure Binary64 where
  bits : UInt64
deriving DecidableEq, Repr

/-- The quotient rounded to the nearest integer, a half going to the even one. -/
def roundDiv (num den : Nat) : Nat :=
  let q := num / den
  let r := num % den
  if 2 * r < den then q
  else if den < 2 * r then q + 1
  else q + q % 2

namespace Binary64

/-! ## the parts of a word -/

/-- The sign bit. -/
def isNegative (x : Binary64) : Bool :=
  Nat.pow 2 63 ≤ x.bits.toNat

/-- The exponent field. -/
def exponentField (x : Binary64) : Nat :=
  x.bits.toNat / Nat.pow 2 52 % 2048

/-- The fraction field. -/
def fraction (x : Binary64) : Nat :=
  x.bits.toNat % Nat.pow 2 52

def isNaN (x : Binary64) : Bool :=
  x.exponentField = 2047 && x.fraction ≠ 0

def isFinite (x : Binary64) : Bool :=
  x.exponentField ≠ 2047

/-- The integer that the power of two is multiplied with. -/
def significand (x : Binary64) : Nat :=
  if x.exponentField = 0 then x.fraction else Nat.pow 2 52 + x.fraction

/-- The exponent of two in the size of a finite number. -/
def exponent (x : Binary64) : Int :=
  if x.exponentField = 0 then -1074 else (x.exponentField : Int) - 1075

/-- The size of a finite number as a quotient: numerator and denominator. -/
def ratio (x : Binary64) : Nat × Nat :=
  (x.significand * Nat.pow 2 x.exponent.toNat, Nat.pow 2 (-x.exponent).toNat)

/-- Zero of either sign. -/
def isZero (x : Binary64) : Bool :=
  x.exponentField = 0 && x.fraction = 0

/-- Above zero; no NaN is. -/
def isPositive (x : Binary64) : Bool :=
  !x.isNaN && !x.isNegative && !x.isZero

/-- Zero or above; no NaN is. -/
def isNonNegative (x : Binary64) : Bool :=
  !x.isNaN && (!x.isNegative || x.isZero)

/-! ## rounding to a word -/

/-- The word with the given sign and the given exponent and fraction fields, read as one number;
what reaches the field of the infinities is infinite. -/
def ofFields (negative : Bool) (fields : Nat) : Binary64 :=
  ⟨UInt64.ofNat ((if negative then Nat.pow 2 63 else 0) + min fields (2047 * Nat.pow 2 52))⟩

def zero (negative : Bool) : Binary64 :=
  ofFields negative 0

def infinity (negative : Bool) : Binary64 :=
  ofFields negative (2047 * Nat.pow 2 52)

/-- The one NaN that operations give. -/
def nan : Binary64 :=
  ⟨0x7FF8000000000000⟩

/-- The exponent of the highest power of two in a quotient. -/
def leadingExponent (num den : Nat) : Int :=
  let guess := (num.log2 : Int) - den.log2
  if num * Nat.pow 2 (-guess).toNat < den * Nat.pow 2 guess.toNat then guess - 1 else guess

/-- The number nearest to a quotient of naturals, a tie going to the even significand.  The fields
are the significand added to the scaled exponent, so that a significand rounded up to the next
power of two carries into the exponent. -/
def ofRatio (negative : Bool) (num den : Nat) : Binary64 :=
  if num = 0 then zero negative
  else
    let scale := max (leadingExponent num den - 52) (-1074)
    let rounded := roundDiv (num * Nat.pow 2 (-scale).toNat) (den * Nat.pow 2 scale.toNat)
    ofFields negative ((scale + 1074).toNat * Nat.pow 2 52 + rounded)

def ofInt (n : Int) : Binary64 :=
  ofRatio (n < 0) n.natAbs 1

instance (n : Nat) : OfNat Binary64 n := ⟨ofInt n⟩

/-- The number nearest to `digits * 10 ^ exponent`.  Outside the range of the format the answer is
known from the number of digits alone, so no large power is computed there. -/
def ofDecimal (negative : Bool) (digits : Nat) (exponent : Int) : Binary64 :=
  let size := ((Nat.toDigits 10 digits).length : Int) + exponent
  if digits = 0 || size < -330 then zero negative
  else if 310 < size then infinity negative
  else ofRatio negative (digits * Nat.pow 10 exponent.toNat) (Nat.pow 10 (-exponent).toNat)

/-! ## whole numbers -/

/-- The integer next to a finite number in the direction of zero. -/
def truncate (x : Binary64) : Int :=
  let (num, den) := x.ratio
  if x.isNegative then -((num / den : Nat) : Int) else (num / den : Nat)

/-- Whether a finite number has no fractional part. -/
def isWhole (x : Binary64) : Bool :=
  let (num, den) := x.ratio
  num % den = 0

/-- The product with a natural number. -/
def scaleBy (factor : Nat) (x : Binary64) : Binary64 :=
  if x.isFinite then ofRatio x.isNegative (x.ratio.1 * factor) x.ratio.2 else x

example : (2 : Binary64).bits = 0x4000000000000000 := by decide +kernel
example : (300 : Binary64).bits = 0x4072C00000000000 := by decide +kernel
example : (ofDecimal false 1 (-1)).bits = 0x3FB999999999999A := by decide +kernel
example : (ofDecimal false 5 (-324)).bits = 1 := by decide +kernel
example : (ofDecimal true 2 308).bits = 0xFFF0000000000000 := by decide +kernel

end Binary64

end ServerBrowser
