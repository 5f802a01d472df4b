import ServerBrowser.Binary64.Reading
import ServerBrowser.Json.Reader
import ServerBrowser.Settings.Complaint

/-!
# Numbers in settings

A number may be given as a number or as text.  A whole number may also be a binary number without a
fraction.  Its text may have blanks around it, a plus sign, leading zeros, single underscores, and
a fraction of zeros.  The text of a time may have blanks around it, or else underscores.
-/

namespace ServerBrowser.Settings

open Text

/-- Whether an integer fits into 64 bits with a sign. -/
def isWord (n : Int) : Bool :=
  Int64.minValue.toInt ≤ n && n ≤ Int64.maxValue.toInt

/-! ## whole numbers as text -/

/-- Digits that do not start with a superfluous zero, after an optional minus. -/
def strictWhole? (cs : List Char) : Option Int :=
  let (negative, digits) := match cs with
    | '-' :: rest => (true, rest)
    | _ => (false, cs)
  if digits.isEmpty || !digits.all Char.isDigit || (digits.head? = some '0' && 1 < digits.length)
  then none
  else some (signed negative (digitsValue digits))

/-- Drop zeros and underscores in front of a digit; before a point the last of them stays.
`before` is the character dropped last. -/
def dropZeros (before : Char) : List Char → Option (List Char)
  | [] => some [before]
  | c :: rest =>
    if c = '0' ∨ c = '_' then dropZeros c rest
    else if c.isDigit then some (c :: rest)
    else if c = '.' then some (before :: c :: rest)
    else none

/-- Drop the zeros that a number starts with.  A number starts with a digit or a minus. -/
def dropLeadingZeros : List Char → Option (List Char)
  | [] => none
  | '0' :: rest => dropZeros '0' rest
  | c :: rest => if c.isDigit ∨ c = '-' then some (c :: rest) else none

/-- Drop a fraction of zeros. -/
def dropZeroFraction (cs : List Char) : List Char :=
  match cs.dropWhile (· != '.') with
  | [] => cs
  | _ :: fraction => if fraction.all (· == '0') then cs.takeWhile (· != '.') else cs

/-- Drop underscores where each stands alone and inside; elsewhere they stay. -/
def dropUnderscores (cs : List Char) : List Char :=
  if cs.head? = some '_' || !underscoresSeparate cs then cs else cs.filter (· != '_')

/-- A whole number as plain text. -/
def plainWhole? (cs : List Char) : Option (List Char) := do
  let cs ← match trimBy isBlank cs with
    | '+' :: '-' :: _ => none
    | '+' :: rest => some rest
    | rest => some rest
  let cs ← dropLeadingZeros cs
  return dropUnderscores (dropZeroFraction cs)

/-- Read a whole number from text. -/
def wholeOfText (text : String) : Except Complaint.Reason Int :=
  let cs := text.toList
  if digitLimit < text.utf8ByteSize then .error .wholeTooLong
  else match strictWhole? cs <|> (plainWhole? cs >>= strictWhole?) with
    | some n => .ok n
    | none => .error .wholeText

/-- Read a whole number. -/
def readWhole : Json → Except Complaint.Reason Int
  | .bool b => .ok (if b then 1 else 0)
  | .int n => .ok n
  | .real x =>
    if !x.isFinite then .error .notFinite
    else if !x.isWhole then .error .fractional
    else if isWord x.truncate then .ok x.truncate
    else .error .wholeTooLong
  | .str text => wholeOfText text
  | _ => .error .notWhole

/-! ## times -/

/-- Read a binary number from text. -/
def realOfText (text : String) : Except Complaint.Reason Binary64 :=
  let cs := text.toList
  match Binary64.readPlain? (trimBy isBlank cs) <|> Binary64.readPlain? (dropUnderscores cs) with
  | some x => .ok x
  | none => .error .realText

/-- Read a binary number. -/
def readReal : Json → Except Complaint.Reason Binary64
  | .bool b => .ok (if b then 1 else 0)
  | .int n =>
    let x := Binary64.ofInt n
    if x.isFinite then .ok x else .error .notReal
  | .real x => .ok x
  | .str text => realOfText text
  | _ => .error .notReal

end ServerBrowser.Settings
