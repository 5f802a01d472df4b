import ServerBrowser.Binary64

/-!
# Decimal text of binary numbers

Three forms: a fixed number of decimal places, a fixed number of significant digits with an
exponent, and the fewest significant digits that read back as the same number.  All three round the
exact value, a half going to the even neighbour.
-/

namespace ServerBrowser.Binary64

/-- A number's sign, for any number but NaN. -/
def signText (x : Binary64) : String :=
  if x.isNegative then "-" else ""

/-- The text of a number that is not finite. -/
def specialText (x : Binary64) : String :=
  if x.isNaN then "nan" else x.signText ++ "inf"

/-- Put a point before the last `places` digits, with zeros in front where digits are missing. -/
def placePoint (places n : Nat) : String :=
  let digits := Nat.toDigits 10 n
  let padded := List.replicate (places + 1 - digits.length) '0' ++ digits
  let whole := String.ofList (padded.take (padded.length - places))
  if places = 0 then whole
  else whole ++ "." ++ String.ofList (padded.drop (padded.length - places))

/-- The size of a finite number with a fixed number of decimal places. -/
def fixedSize (places : Nat) (x : Binary64) : String :=
  placePoint places (roundDiv (x.ratio.1 * Nat.pow 10 places) x.ratio.2)

/-- A number with a fixed number of decimal places. -/
def fixed (places : Nat) (x : Binary64) : String :=
  if x.isFinite then x.signText ++ fixedSize places x else specialText x

/-- The power of ten that the leading digit of a quotient stands for. -/
def leadingPower (num den : Nat) : Int :=
  if den ≤ num then ((Nat.toDigits 10 (num / den)).length : Int) - 1
  else
    let inverse := (Nat.toDigits 10 (den / num)).length
    if den ≤ num * Nat.pow 10 (inverse - 1) then -((inverse - 1 : Nat) : Int) else -(inverse : Int)

/-- The size of a number in units of a power of ten, as a quotient. -/
def inUnits (power : Int) (x : Binary64) : Nat × Nat :=
  (x.ratio.1 * Nat.pow 10 (-power).toNat, x.ratio.2 * Nat.pow 10 power.toNat)

/-- A decimal number: `digits * 10 ^ power`. -/
structure Decimal where
  digits : Nat
  power : Int
deriving DecidableEq, Repr

/-- The two decimal neighbours of a number that have the given count of significant digits, the
nearer first and, of two equally near, the even one. -/
def neighbours (count : Nat) (x : Binary64) : List Decimal :=
  let power := leadingPower x.ratio.1 x.ratio.2 - count + 1
  let (num, den) := inUnits power x
  let near := roundDiv num den
  let below := num / den
  [⟨near, power⟩, ⟨if near = below then below + 1 else below, power⟩]

/-- The decimal with the fewest significant digits that reads back, and the nearest of those; 17
digits always do. -/
def shortest (x : Binary64) : Decimal :=
  let readsBack := fun d : Decimal => ofDecimal x.isNegative d.digits d.power == x
  let counts := (List.range 17).map (· + 1)
  ((counts.flatMap fun count => neighbours count x).find? readsBack).getD ⟨x.significand, 0⟩

/-- Drop trailing zeros of a row of digits, one digit being kept. -/
def trimZeros (digits : List Char) : List Char :=
  match (digits.reverse.dropWhile (· == '0')).reverse with
  | [] => ['0']
  | rest => rest

/-- An exponent of ten with its sign and two digits at least. -/
def exponentText (power : Int) : String :=
  let digits := Nat.toDigits 10 power.natAbs
  (if power < 0 then "e-" else "e+") ++
    String.ofList (List.replicate (2 - digits.length) '0' ++ digits)

/-- Digits with a point after the first one; a single digit has a point only when it is asked
for. -/
def leadingPoint (keepPoint : Bool) : List Char → String
  | [] => ""
  | [d] => String.ofList (if keepPoint then [d, '.'] else [d])
  | d :: rest => String.ofList (d :: '.' :: rest)

/-- The fewest digits that read back; positional from a ten-thousandth up to below ten to the
sixteenth, and then with a digit after the point. -/
def text (x : Binary64) : String :=
  if !x.isFinite then specialText x
  else if x.isZero then x.signText ++ "0.0"
  else
    let d := shortest x
    let digits := Nat.toDigits 10 d.digits
    let point := (digits.length : Int) + d.power
    let kept := trimZeros digits
    x.signText ++
      if point < -3 || 16 < point then leadingPoint false kept ++ exponentText (point - 1)
      else if point ≤ 0 then
        "0." ++ String.ofList (List.replicate (-point).toNat '0' ++ kept)
      else
        let whole := kept ++ List.replicate (point.toNat - kept.length) '0'
        let after := whole.drop point.toNat
        String.ofList (whole.take point.toNat ++ '.' :: if after.isEmpty then ['0'] else after)

/-- The size of a finite number rounded to a count of significant digits: the digits and the power
of ten of the first of them. -/
def significant (count : Nat) (x : Binary64) : List Char × Int :=
  if x.isZero then (List.replicate count '0', 0)
  else
    let power := leadingPower x.ratio.1 x.ratio.2
    let (num, den) := inUnits (power - count + 1) x
    let digits := Nat.toDigits 10 (roundDiv num den)
    if count < digits.length then (digits.take count, power + 1) else (digits, power)

/-- A number with an exponent and a fixed number of digits after the point. -/
def scientific (places : Nat) (keepPoint : Bool) (x : Binary64) : String :=
  if !x.isFinite then specialText x
  else
    let (digits, power) := significant (places + 1) x
    x.signText ++ leadingPoint keepPoint digits ++ exponentText power

/-- A number with a count of significant digits, positional where the exponent is small and not
below a ten-thousandth; trailing zeros are dropped unless they are asked for. -/
def general (precision : Nat) (keepZeros : Bool) (x : Binary64) : String :=
  if !x.isFinite then specialText x
  else
    let count := max precision 1
    let (digits, power) := significant count x
    let kept := if keepZeros then digits else trimZeros digits
    x.signText ++
      if power < -4 || (count : Int) ≤ power then
        leadingPoint keepZeros kept ++ exponentText power
      else if power < 0 then
        "0." ++ String.ofList (List.replicate (-power - 1).toNat '0' ++ kept)
      else
        let whole := power.toNat + 1
        let padded := kept ++ List.replicate (whole - kept.length) '0'
        let after := padded.drop whole
        String.ofList (padded.take whole) ++
          if after.isEmpty && !keepZeros then "" else String.ofList ('.' :: after)

example : fixed 1 (ofDecimal false 25 (-2)) = "0.2" := by decide +kernel
example : text (ofDecimal true 25 (-2)) = "-0.25" := by decide +kernel
example : text (ofDecimal false 1 16) = "1e+16" := by decide +kernel
example : text (ofDecimal false 5 (-324)) = "5e-324" := by decide +kernel

end ServerBrowser.Binary64
