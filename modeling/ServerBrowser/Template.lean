import ServerBrowser.Json.Display
import ServerBrowser.Text.Numeral

/-!
# Message templates

A message is a template in which directives stand for values.  A directive is a percent sign, an
optional name in parentheses, flags, a width, a precision and a letter: `s`, `r` and `a` show any
value, `d`, `i`, `u`, `o`, `x` and `X` a whole number, `e`, `f` and `g` of either case a binary
number, `c` one character.  A doubled percent sign stands for itself.

Values come from a row, in order, or from a mapping by name.  A mapping also counts as one value,
which a directive without a name takes.
-/

namespace ServerBrowser.Template

open Text

/-- The two sizes of a directive. -/
inductive Size where
  | width
  | precision
deriving DecidableEq, Repr

/-- The first number that is too large for a size: a width has 64 bits and a precision 32, of which
one is for the sign. -/
def Size.bound : Size → Nat
  | width => 0x8000000000000000
  | precision => 0x80000000

/-- Why a template and its values give no text. -/
inductive Fault where
  | incomplete
  | incompleteName
  | unknownLetter (letter : Char) (position : Nat)
  | tooFewValues
  | tooManyValues
  | noMapping
  | noMember (name : String)
  | sizeNotWhole
  /-- A width or a precision given as a value that is too large. -/
  | sizeOverflow (size : Size)
  /-- A width or a precision written in the template that is too large. -/
  | sizeTooLarge (size : Size)
  | notWhole (letter : Char) (kind : String)
  | notNumber (letter : Char) (kind : String)
  | notReal (kind : String)
  | notChar
  | charTooLarge
  | realTooLarge
  | notFinite (isNaN : Bool)
deriving DecidableEq, Repr

/-- The text of the failure. -/
def Fault.message : Fault → String
  | .incomplete => "incomplete format"
  | .incompleteName => "incomplete format key"
  | .unknownLetter letter position =>
    let shown := if 0x1F ≤ letter.toNat && letter.toNat ≤ 0x7E then letter else '?'
    s!"unsupported format character '{shown}' (0x{hexPadded 1 letter.toNat}) at index {position}"
  | .tooFewValues => "not enough arguments for format string"
  | .tooManyValues => "not all arguments converted during string formatting"
  | .noMapping => "format requires a mapping"
  | .noMember name => Text.quoted name
  | .sizeNotWhole => "* wants int"
  | .sizeOverflow .width => "width too large to convert"
  | .sizeOverflow .precision => "precision too large to convert"
  | .sizeTooLarge .width => "width too big"
  | .sizeTooLarge .precision => "precision too big"
  | .notWhole letter kind => s!"%{letter} format: an integer is required, not {kind}"
  | .notNumber letter kind => s!"%{letter} format: a real number is required, not {kind}"
  | .notReal kind => s!"must be real number, not {kind}"
  | .notChar => "%c requires int or char"
  | .charTooLarge => "%c arg not in range(0x110000)"
  | .realTooLarge => "int too large to convert to float"
  | .notFinite true => "cannot convert float NaN to integer"
  | .notFinite false => "cannot convert float infinity to integer"

/-- The values for the directives of a template. -/
structure Values where
  /-- The mapping that names are looked up in. -/
  mapping : Option Json.Members
  /-- The values that directives without a name take. -/
  row : List Json

/-- Values taken in order. -/
def Values.ofList (row : List Json) : Values :=
  ⟨none, row⟩

/-- Values taken by name. -/
def Values.ofMembers (members : Json.Members) : Values :=
  ⟨some members, [.obj members]⟩

/-- Take the next value of the row. -/
def Values.next : Values → Except Fault (Json × Values)
  | ⟨_, []⟩ => .error .tooFewValues
  | ⟨mapping, value :: row⟩ => .ok (value, ⟨mapping, row⟩)

/-- A directive without its name. -/
structure Directive where
  /-- Align to the left. -/
  left : Bool := false
  /-- Show a plus sign. -/
  plus : Bool := false
  /-- Leave a blank for a plus sign. -/
  blank : Bool := false
  /-- Show the base of a number, or its point. -/
  alternate : Bool := false
  /-- Fill with zeros. -/
  zeros : Bool := false
  width : Nat := 0
  precision : Option Nat := none
deriving Repr

/-! ## reading a directive -/

/-- Set the flag of a character. -/
def Directive.flag? (d : Directive) : Char → Option Directive
  | '-' => some { d with left := true }
  | '+' => some { d with plus := true }
  | ' ' => some { d with blank := true }
  | '#' => some { d with alternate := true }
  | '0' => some { d with zeros := true }
  | _ => none

/-- Read the flags at the start of a text. -/
def readFlags (d : Directive) : List Char → Directive × List Char
  | [] => (d, [])
  | c :: rest =>
    match d.flag? c with
    | some d => readFlags d rest
    | none => (d, c :: rest)

/-- The name in parentheses, which may hold balanced parentheses itself, and what follows. -/
def readName (depth : Nat) : List Char → Option (List Char × List Char)
  | [] => none
  | ')' :: rest =>
    match depth with
    | 0 => some ([], rest)
    | depth + 1 => (readName depth rest).map fun (name, rest) => (')' :: name, rest)
  | '(' :: rest => (readName (depth + 1) rest).map fun (name, rest) => ('(' :: name, rest)
  | c :: rest => (readName depth rest).map fun (name, rest) => (c :: name, rest)

/-- A size that was given as a value. -/
def givenSize (size : Size) : Json → Except Fault Int
  | .int n =>
    if -(size.bound : Int) ≤ n ∧ n < size.bound then .ok n else .error (.sizeOverflow size)
  | .bool b => .ok (if b then 1 else 0)
  | _ => .error .sizeNotWhole

/-- Read a size: digits, or an asterisk for the next value. -/
def readSize (size : Size) (values : Values) :
    List Char → Except Fault (Option Int × Values × List Char)
  | '*' :: rest => do
    let (value, values) ← values.next
    return (some (← givenSize size value), values, rest)
  | cs =>
    let digits := cs.takeWhile Char.isDigit
    let rest := cs.dropWhile Char.isDigit
    if digits.isEmpty then .ok (none, values, rest)
    else if size.bound ≤ digitsValue digits then .error (.sizeTooLarge size)
    else .ok (some (digitsValue digits), values, rest)

/-- The width of a directive; a negative one aligns to the left. -/
def Directive.withWidth (d : Directive) (width : Int) : Directive :=
  if width < 0 then { d with left := true, width := width.natAbs }
  else { d with width := width.toNat }

/-! ## converting values -/

/-- A converted value: its sign, the mark of its base, and the rest. -/
structure Piece where
  sign : String := ""
  base : String := ""
  body : String
  /-- Zeros may fill it. -/
  numeric : Bool := false

/-- Bring a piece to the width of its directive. -/
def Directive.align (d : Directive) (p : Piece) : String :=
  let missing := d.width - (p.sign.length + p.base.length + p.body.length)
  let fill := fun c => String.ofList (List.replicate missing c)
  if d.left then p.sign ++ p.base ++ p.body ++ fill ' '
  else if d.zeros && p.numeric then p.sign ++ p.base ++ fill '0' ++ p.body
  else fill ' ' ++ p.sign ++ p.base ++ p.body

/-- The sign that a number is shown with. -/
def Directive.sign (d : Directive) (negative : Bool) : String :=
  if negative then "-" else if d.plus then "+" else if d.blank then " " else ""

/-- The integer that a letter of whole numbers takes from a value. -/
def wholeNumber (letter : Char) (value : Json) : Except Fault Int :=
  let anyBase := letter = 'o' || letter = 'x' || letter = 'X'
  match value with
  | .int n => .ok n
  | .bool b => .ok (if b then 1 else 0)
  | .real x =>
    if anyBase then .error (.notWhole letter value.kindName)
    else if x.isFinite then .ok x.truncate
    else .error (.notFinite x.isNaN)
  | _ =>
    .error (if anyBase then .notWhole letter value.kindName else .notNumber letter value.kindName)

/-- A whole number in the base of its letter. -/
def Directive.whole (d : Directive) (letter : Char) (n : Int) : Piece :=
  let (radix, base) := match letter with
    | 'o' => (8, "0o")
    | 'x' => (16, "0x")
    | 'X' => (16, "0X")
    | _ => (10, "")
  let digits := Nat.toDigits radix n.natAbs
  let padded := List.replicate (d.precision.getD 0 - digits.length) '0' ++ digits
  let body := if letter = 'X' then padded.map Char.toUpper else padded
  { sign := d.sign (n < 0), base := if d.alternate then base else "", body := String.ofList body,
    numeric := true }

/-- The binary number that a value is. -/
def realNumber (value : Json) : Except Fault Binary64 :=
  match value with
  | .real x => .ok x
  | .bool b => .ok (if b then 1 else 0)
  | .int n =>
    let x := Binary64.ofInt n
    if x.isFinite then .ok x else .error .realTooLarge
  | _ => .error (.notReal value.kindName)

/-- A binary number in the form of its letter. -/
def Directive.real (d : Directive) (letter : Char) (x : Binary64) : Piece :=
  let places := d.precision.getD 6
  let size := ⟨x.bits &&& 0x7FFFFFFFFFFFFFFF⟩
  let text := match letter.toLower with
    | 'e' => Binary64.scientific places d.alternate size
    | 'f' =>
      let text := Binary64.fixed places size
      if d.alternate && places = 0 && x.isFinite then text ++ "." else text
    | _ => Binary64.general places d.alternate size
  { sign := d.sign (x.isNegative && !x.isNaN), numeric := true,
    body := if letter.isUpper then text.toUpper else text }

/-- A text cut to the precision. -/
def Directive.cut (d : Directive) (text : String) : Piece :=
  match d.precision with
  | some most => { body := String.ofList (text.toList.take most) }
  | none => { body := text }

/-- The character that a value is. -/
def charOf (value : Json) : Except Fault String :=
  match value with
  | .str s => if s.length = 1 then .ok s else .error .notChar
  | .int n =>
    if 0 ≤ n ∧ n < 0x110000 then .ok (String.singleton (Char.ofNat n.toNat))
    else .error .charTooLarge
  | .bool b => .ok (String.singleton (Char.ofNat (if b then 1 else 0)))
  | _ => .error .notChar

/-- A value in the form of a letter. -/
def Directive.convert (d : Directive) (letter : Char) (position : Nat) (value : Json) :
    Except Fault Piece :=
  match letter with
  | 's' => .ok (d.cut value.display)
  | 'r' => .ok (d.cut value.quoted)
  | 'a' => .ok (d.cut value.quotedAscii)
  | 'c' => (charOf value).map fun body => { body }
  | _ =>
    if "diuoxX".toList.contains letter then (wholeNumber letter value).map (d.whole letter)
    else if "eEfFgG".toList.contains letter then (realNumber value).map (d.real letter)
    else .error (.unknownLetter letter position)

/-! ## formatting -/

/-- Carry out the directive that starts after a percent sign and is more than a second one.
`position` is where a suffix of the template starts, found from the length of that suffix. -/
def formatDirective (position : List Char → Nat) (values : Values) (cs : List Char) :
    Except Fault (String × Values × List Char) := do
  let (values, cs) ← match cs with
    | '(' :: rest =>
      match values.mapping with
      | none => .error .noMapping
      | some members =>
        match readName 0 rest with
        | none => .error .incompleteName
        | some (name, rest) =>
          match Json.find? members (String.ofList name) with
          | none => .error (.noMember (String.ofList name))
          | some value => pure (⟨some members, [value]⟩, rest)
    | _ => pure (values, cs)
  let (d, cs) := readFlags {} cs
  let (width, values, cs) ← readSize .width values cs
  let d := d.withWidth (width.getD 0)
  let (d, values, cs) ← match cs with
    | '.' :: rest => do
      let (size, values, rest) ← readSize .precision values rest
      pure ({ d with precision := some (size.getD 0).toNat }, values, rest)
    | _ => pure (d, values, cs)
  let cs := match cs with
    | c :: rest => if c = 'h' ∨ c = 'l' ∨ c = 'L' then rest else cs
    | [] => cs
  match cs with
  | [] => .error .incomplete
  | letter :: rest =>
    let (value, values) ← values.next
    let piece ← d.convert letter (position cs) value
    return (d.align piece, values, rest)

/-- Format a text with at most `fuel` directives. -/
def formatFrom (position : List Char → Nat) : Nat → Values → List Char → Except Fault String
  | 0, _, _ => .error .incomplete
  | fuel + 1, values, cs =>
    let literal := String.ofList (cs.takeWhile (· != '%'))
    match cs.dropWhile (· != '%') with
    | [] =>
      if values.mapping.isNone && !values.row.isEmpty then .error .tooManyValues else .ok literal
    | '%' :: '%' :: rest => do
      let more ← formatFrom position fuel values rest
      return literal ++ "%" ++ more
    | _ :: rest => do
      let (text, values, rest) ← formatDirective position values rest
      let more ← formatFrom position fuel values rest
      return literal ++ text ++ more

/-- The text of a template with its values. -/
def format (template : String) (values : Values) : Except Fault String :=
  let cs := template.toList
  formatFrom (fun suffix => cs.length - suffix.length) (cs.length + 1) values cs

end ServerBrowser.Template
