import ServerBrowser.Binary64
import ServerBrowser.Text.Numeral

/-!
# Reading binary numbers from decimal text

The grammar of a number: an optional sign, digits with an optional point (one digit at least), an
optional exponent; or a word for infinity or NaN in any case of letters.  Two readers use it.
`readNumber?` takes digits of any script, blanks around the number and single underscores between
digits; `readPlain?` takes the grammar alone.
-/

namespace ServerBrowser.Binary64

open Text

/-- Split leading ASCII digits off. -/
def splitDigits (cs : List Char) : List Char × List Char :=
  (cs.takeWhile Char.isDigit, cs.dropWhile Char.isDigit)

/-- The exponent at the end of a number: nothing, or the letter, an optional sign and digits. -/
def readExponent? : List Char → Option Int
  | [] => some 0
  | c :: rest =>
    if c = 'e' ∨ c = 'E' then
      let (negative, unsigned) := splitSign rest
      match splitDigits unsigned with
      | ([], _) => none
      | (digits, []) => some (signed negative (digitsValue digits))
      | _ => none
    else none

/-- The digits before and after the point of an unsigned number, and what follows them. -/
def splitMantissa (cs : List Char) : List Char × List Char × List Char :=
  let (whole, rest) := splitDigits cs
  match rest with
  | '.' :: rest =>
    let (part, rest) := splitDigits rest
    (whole, part, rest)
  | rest => (whole, [], rest)

/-- The words for what is no finite number. -/
def readWord? (negative : Bool) (cs : List Char) : Option Binary64 :=
  match String.ofList (cs.map Char.toLower) with
  | "inf" => some (infinity negative)
  | "infinity" => some (infinity negative)
  | "nan" => some nan
  | _ => none

/-- A number in the plain grammar. -/
def readPlain? (cs : List Char) : Option Binary64 :=
  let (negative, unsigned) := splitSign cs
  let (whole, part, rest) := splitMantissa unsigned
  if whole.isEmpty && part.isEmpty then readWord? negative unsigned
  else do
    let exponent ← readExponent? rest
    return ofDecimal negative (digitsValue (whole ++ part)) (exponent - part.length)

/-- Whether every underscore stands between two ASCII digits. -/
def underscoresInDigits : Option Char → List Char → Bool
  | before, [] => before != some '_'
  | before, c :: rest =>
    (if c = '_' then before.any Char.isDigit else before != some '_' || c.isDigit) &&
      underscoresInDigits (some c) rest

/-- A number with blanks, underscores and digits of any script allowed. -/
def readNumber? (text : String) : Option Binary64 :=
  let cs := foldNumber text
  if underscoresInDigits none cs then readPlain? (cs.filter (· != '_')) else none

end ServerBrowser.Binary64
