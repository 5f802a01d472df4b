import ServerBrowser.Text.Printable

/-!
# Quoted text

Messages quote text between single quotes, or between double quotes when the text holds a single
quote and no double one.  Inside, the quote in use and the backslash are escaped, as is every
character that would not print; the width of a numeric escape follows the code point.
-/

namespace ServerBrowser.Text

/-- The lower-case hexadecimal digits of a number, padded with zeros to a width. -/
def hexPadded (width n : Nat) : String :=
  let digits := Nat.toDigits 16 n
  String.ofList (List.replicate (width - digits.length) '0' ++ digits)

/-- The escape of a code point: two, four or eight hexadecimal digits, as many as it needs. -/
def codeEscape (c : Char) : String :=
  let n := c.toNat
  if n < 0x100 then "\\x" ++ hexPadded 2 n
  else if n < 0x10000 then "\\u" ++ hexPadded 4 n
  else "\\U" ++ hexPadded 8 n

/-- One character inside quotes. -/
def quotedChar (quote c : Char) : String :=
  if c = quote || c = '\\' then String.ofList ['\\', c]
  else if c = '\t' then "\\t"
  else if c = '\n' then "\\n"
  else if c = '\r' then "\\r"
  else if isPrintable c then String.singleton c
  else codeEscape c

/-- The quote that a text is put between. -/
def quoteMark (cs : List Char) : Char :=
  if cs.contains '\'' && !cs.contains '"' then '"' else '\''

/-- A text between quotes. -/
def quoted (text : String) : String :=
  let quote := quoteMark text.toList
  String.singleton quote ++ String.join (text.toList.map (quotedChar quote)) ++
    String.singleton quote

/-- A text between quotes in which every character beyond ASCII is escaped too. -/
def quotedAscii (text : String) : String :=
  String.join ((quoted text).toList.map fun c =>
    if c.toNat < 0x80 then String.singleton c else codeEscape c)

end ServerBrowser.Text
