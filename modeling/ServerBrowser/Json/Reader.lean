import ServerBrowser.Binary64.Reading
import ServerBrowser.Json
import ServerBrowser.Text.Hex

/-!
# Reading JSON

The reader takes the grammar of JSON, and the words `NaN`, `Infinity` and `-Infinity` besides.  A
number without point and exponent is an integer, which may have no more digits than a numeral may.
Control characters may not stand in a string as they are.

Every level of nesting and every element costs one unit of fuel; a text has fewer of them than
characters, so `Json.read` gives as much fuel as the text has characters and one more.
-/

namespace ServerBrowser

open Text

/-- Why a text is no JSON. -/
inductive JsonFault where
  | malformed
  | longInteger (digits : Nat)
deriving DecidableEq, Repr

namespace Json

/-- Drop the blanks between tokens. -/
def skipBlanks (cs : List Char) : List Char :=
  cs.dropWhile fun c => c = ' ' ∨ c = '\t' ∨ c = '\n' ∨ c = '\r'

/-- The rest of a text that starts with a word. -/
def dropWord? (word : String) (cs : List Char) : Option (List Char) :=
  if word.toList.isPrefixOf cs then some (cs.drop word.length) else none

/-! ## numbers -/

/-- The digits of a fraction with its point, where there are some. -/
def splitFraction : List Char → List Char × List Char
  | '.' :: rest =>
    match Binary64.splitDigits rest with
    | ([], _) => ([], '.' :: rest)
    | split => split
  | cs => ([], cs)

/-- An exponent of ten, where there is one. -/
def splitPower (cs : List Char) : Option Int × List Char :=
  match cs with
  | c :: rest =>
    if c = 'e' ∨ c = 'E' then
      let (negative, unsigned) := splitSign rest
      match Binary64.splitDigits unsigned with
      | ([], _) => (none, cs)
      | (digits, rest) => (some (signed negative (digitsValue digits)), rest)
    else (none, cs)
  | [] => (none, cs)

/-- The digits before the point: one zero, or digits that do not start with a zero. -/
def splitWhole : List Char → List Char × List Char
  | '0' :: rest => (['0'], rest)
  | cs => Binary64.splitDigits cs

/-- Read a number. -/
def readNumber (cs : List Char) : Except JsonFault (Json × List Char) :=
  let (negative, unsigned) := match cs with
    | '-' :: rest => (true, rest)
    | _ => (false, cs)
  let (whole, rest) := splitWhole unsigned
  let (part, rest) := splitFraction rest
  let (power, rest) := splitPower rest
  if whole.isEmpty then .error .malformed
  else if part.isEmpty && power.isNone then
    if digitLimit < whole.length then .error (.longInteger whole.length)
    else .ok (.int (signed negative (digitsValue whole)), rest)
  else
    .ok (.real (.ofDecimal negative (digitsValue (whole ++ part)) (power.getD 0 - part.length)),
      rest)

/-! ## strings -/

/-- Split a string as it is written off what follows its closing quote.  A backslash takes the
character after it along. -/
def splitString? : List Char → Option (List Char × List Char)
  | [] => none
  | '"' :: rest => some ([], rest)
  | '\\' :: c :: rest => (splitString? rest).map fun (body, rest) => ('\\' :: c :: body, rest)
  | c :: rest => (splitString? rest).map fun (body, rest) => (c :: body, rest)

/-- The code that four hexadecimal digits stand for. -/
def codeOf? (digits : List Char) : Option Nat :=
  digits.foldlM (fun n c => return 16 * n + (← hexValue? c)) 0

/-- The character that a short escape stands for. -/
def shortEscape? : Char → Option Char
  | '"' => some '"'
  | '\\' => some '\\'
  | '/' => some '/'
  | 'b' => some '\x08'
  | 'f' => some '\x0c'
  | 'n' => some '\n'
  | 'r' => some '\r'
  | 't' => some '\t'
  | _ => none

/-- The codes of the characters that a string is written with. -/
def codes? : List Char → Option (List Nat)
  | [] => some []
  | '\\' :: 'u' :: a :: b :: c :: d :: rest => return (← codeOf? [a, b, c, d]) :: (← codes? rest)
  | '\\' :: letter :: rest => return (← shortEscape? letter).toNat :: (← codes? rest)
  | c :: rest => if c.toNat < 0x20 ∨ c = '\\' then none else return c.toNat :: (← codes? rest)

/-- The character of a code.  Half of a pair is replaced, since it is no character. -/
def charOf (code : Nat) : Char :=
  if 0xD800 ≤ code ∧ code ≤ 0xDFFF then Char.ofNat 0xFFFD else Char.ofNat code

/-- The characters of codes, where a high half and the low half after it are one character. -/
def joinHalves : List Nat → List Char
  | [] => []
  | [code] => [charOf code]
  | high :: low :: rest =>
    if 0xD800 ≤ high ∧ high ≤ 0xDBFF ∧ 0xDC00 ≤ low ∧ low ≤ 0xDFFF then
      Char.ofNat (0x10000 + (high - 0xD800) * 0x400 + (low - 0xDC00)) :: joinHalves rest
    else charOf high :: joinHalves (low :: rest)

/-- Read a string of which the opening quote is gone. -/
def readString (cs : List Char) : Except JsonFault (String × List Char) :=
  match splitString? cs with
  | some (body, rest) =>
    match codes? body with
    | some codes => .ok (String.ofList (joinHalves codes), rest)
    | none => .error .malformed
  | none => .error .malformed

/-! ## values -/

/-- The words that stand for values. -/
def words : List (String × Json) :=
  [("null", .null), ("true", .bool true), ("false", .bool false), ("NaN", .real .nan),
    ("Infinity", .real (.infinity false)), ("-Infinity", .real (.infinity true))]

/-- Read a word or a number. -/
def readScalar (cs : List Char) : Except JsonFault (Json × List Char) :=
  match words.findSome? fun (word, value) => (dropWord? word cs).map (value, ·) with
  | some found => .ok found
  | none => readNumber cs

mutual

/-- Read a value at the start of a text. -/
def readValue : Nat → List Char → Except JsonFault (Json × List Char)
  | 0, _ => .error .malformed
  | fuel + 1, cs =>
    match cs with
    | '"' :: rest => (readString rest).map fun (text, rest) => (.str text, rest)
    | '[' :: rest =>
      match skipBlanks rest with
      | ']' :: rest => .ok (.arr [], rest)
      | rest => (readItems fuel rest).map fun (items, rest) => (.arr items, rest)
    | '\x7b' :: rest =>
      match skipBlanks rest with
      | '\x7d' :: rest => .ok (.obj [], rest)
      | rest => (readMembers fuel [] rest).map fun (members, rest) => (.obj members, rest)
    | _ => readScalar cs

/-- Read the items of an array up to its closing bracket. -/
def readItems : Nat → List Char → Except JsonFault (List Json × List Char)
  | 0, _ => .error .malformed
  | fuel + 1, cs => do
    let (item, rest) ← readValue fuel cs
    match skipBlanks rest with
    | ']' :: rest => return ([item], rest)
    | ',' :: rest =>
      let (items, rest) ← readItems fuel (skipBlanks rest)
      return (item :: items, rest)
    | _ => .error .malformed

/-- Read the members of an object up to its closing brace, after those read before. -/
def readMembers : Nat → Members → List Char → Except JsonFault (Members × List Char)
  | 0, _, _ => .error .malformed
  | fuel + 1, before, cs =>
    match cs with
    | '"' :: rest => do
      let (name, rest) ← readString rest
      match skipBlanks rest with
      | ':' :: rest =>
        let (value, rest) ← readValue fuel (skipBlanks rest)
        let members := insert before name value
        match skipBlanks rest with
        | '\x7d' :: rest => return (members, rest)
        | ',' :: rest => readMembers fuel members (skipBlanks rest)
        | _ => .error .malformed
      | _ => .error .malformed
    | _ => .error .malformed

end

/-- Read a text that holds one JSON value and nothing else but blanks. -/
def read (text : String) : Except JsonFault Json := do
  let cs := text.toList
  let (value, rest) ← readValue (cs.length + 1) (skipBlanks cs)
  if (skipBlanks rest).isEmpty then return value else .error .malformed

end Json

end ServerBrowser
