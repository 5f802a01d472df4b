import ServerBrowser.Text.Blank
import ServerBrowser.Text.Digit
import ServerBrowser.Text.Quoted

/-!
# Integers written in decimal

An integer is read from decimal digits of any script, with one optional sign, single underscores
between digits and blanks around it.  A numeral of more than 4300 digits is refused.

Text beyond ASCII is first brought to ASCII, digit by digit and blank by blank; in a text that is
ASCII already only the six blanks of ASCII count.
-/

namespace ServerBrowser.Text

/-- The most digits that a numeral may have. -/
def digitLimit : Nat := 4300

/-- Why a text is no integer. -/
inductive NumeralFault where
  | malformed (text : String)
  | tooLong (digits : Nat)
deriving DecidableEq, Repr

/-- The text of the failure.  A refused text is quoted up to 200 characters. -/
def NumeralFault.message : NumeralFault → String
  | .malformed text =>
    "invalid literal for int() with base 10: " ++ String.ofList ((quoted text).toList.take 200)
  | .tooLong digits =>
    s!"Exceeds the limit ({digitLimit} digits) for integer string conversion: value has " ++
      s!"{digits} digits; use sys.set_int_max_str_digits() to increase the limit"

/-- The ASCII form of a digit or blank of any script; other characters stay. -/
def foldChar (c : Char) : Char :=
  if c.toNat < 0x7F then c
  else if isWideBlank c then ' '
  else match digitValue? c with
    | some value => asciiDigit value
    | none => c

/-- Digits and blanks brought to ASCII, and the blanks at both ends dropped. -/
def foldNumber (text : String) : List Char :=
  trimBy isAsciiBlank (text.toList.map foldChar)

/-- The number that a row of ASCII digits stands for. -/
def digitsValue (digits : List Char) : Nat :=
  digits.foldl (fun n c => 10 * n + (c.toNat - 0x30)) 0

/-- Whether every underscore stands alone between two other characters. -/
def underscoresSeparate : List Char → Bool
  | [] => true
  | [c] => c != '_'
  | c :: d :: rest => (c != '_' || d != '_') && underscoresSeparate (d :: rest)

/-- Split an optional sign off; `true` for a minus. -/
def splitSign : List Char → Bool × List Char
  | '-' :: rest => (true, rest)
  | '+' :: rest => (false, rest)
  | rest => (false, rest)

/-- A number with its sign. -/
def signed (negative : Bool) (n : Nat) : Int :=
  if negative then -(n : Int) else n

/-- Read an integer. -/
def readInt (text : String) : Except NumeralFault Int :=
  let (negative, unsigned) := splitSign (foldNumber text)
  let isBody := fun c : Char => c.isDigit || c == '_'
  let body := unsigned.takeWhile isBody
  let digits := body.filter (· != '_')
  if body.head? = some '_' || !underscoresSeparate body then .error (.malformed text)
  else if digits.length > digitLimit then .error (.tooLong digits.length)
  else if digits.isEmpty || !(unsigned.dropWhile isBody).isEmpty then .error (.malformed text)
  else .ok (signed negative (digitsValue digits))

end ServerBrowser.Text
