import ServerBrowser.Text.Blank
import ServerBrowser.Text.Word

/-!
# Wrapping a paragraph

A paragraph is cut into pieces that are not divided any further: blanks, words, the parts of a word
up to and with a hyphen between letters, and dashes of two hyphens or more between words.  Lines
take as many pieces as fit; blanks at the ends of lines are dropped, and a piece that is wider than
a line is broken, after a hyphen where it can be.
-/

namespace ServerBrowser.Text

/-! ## pieces -/

/-- Whether a dash may follow a character: one of a word or of punctuation. -/
def isDashable (c : Char) : Bool :=
  isWordChar c || "!\"'&.,?".toList.contains c

/-- Whether a text starts with a dash of two hyphens or more before a word. -/
def startsDash (cs : List Char) : Bool :=
  2 ≤ (cs.takeWhile (· == '-')).length && ((cs.dropWhile (· == '-')).head?.any isWordChar)

/-- Whether letters stand before a hyphen: two of them, or one after a hyphen after one.  The text
before is given backwards. -/
def lettersBefore : List Char → Bool
  | x :: y :: rest =>
    isWordLetter x && (isWordLetter y || (y == '-' && rest.head?.any isWordLetter))
  | _ => false

/-- Whether letters stand after a hyphen: two of them, or two with a hyphen between. -/
def lettersAfter : List Char → Bool
  | a :: b :: rest =>
    isWordLetter a && (isWordLetter b || (b == '-' && rest.head?.any isWordLetter))
  | _ => false

/-- The rest of a word of which a piece has at least one character, given backwards with all that
stands before it. -/
def restOfWord (before : List Char) : List Char → List Char
  | [] => []
  | c :: rest =>
    if isAsciiBlank c then []
    else if c = '-' && lettersBefore before && lettersAfter rest then ['-']
    else if before.head?.any isDashable && startsDash (c :: rest) then []
    else c :: restOfWord (c :: before) rest

/-- The first piece of a text, after the text that stands before, given backwards. -/
def firstPiece (before : List Char) : List Char → List Char
  | [] => []
  | c :: rest =>
    if isAsciiBlank c then c :: rest.takeWhile isAsciiBlank
    else if before.head?.any isDashable && startsDash (c :: rest) then
      (c :: rest).takeWhile (· == '-')
    else c :: restOfWord (c :: before) rest

/-- The pieces of a text, at most `limit` of them. -/
def pieces : Nat → List Char → List Char → List (List Char)
  | 0, _, _ => []
  | limit + 1, before, cs =>
    match firstPiece before cs with
    | [] => []
    | piece => piece :: pieces limit (piece.reverse ++ before) (cs.drop piece.length)

/-! ## lines -/

/-- Whether a piece is blank or empty. -/
def isBlankPiece (piece : List Char) : Bool :=
  piece.all fun c => isBlank c || (0x1C ≤ c.toNat && c.toNat ≤ 0x1F)

/-- The pieces that fit into a width, and the others. -/
def fill (width : Nat) : List (List Char) → List (List Char) × List (List Char)
  | [] => ([], [])
  | piece :: rest =>
    if piece.length ≤ width then
      let (line, left) := fill (width - piece.length) rest
      (piece :: line, left)
    else ([], piece :: rest)

/-- Where a piece is broken that has to leave its rest for the next line: after the last hyphen
within the room, where other characters than hyphens stand before it. -/
def breakAt (room : Nat) (piece : List Char) : Nat :=
  let kept := (piece.take room).reverse.dropWhile (· != '-')
  let stem := (kept.drop 1).reverse
  if stem.any (· != '-') then stem.length + 1 else room

/-- Drop a blank piece at the end of a line. -/
def dropBlankEnd (line : List (List Char)) : List (List Char) :=
  if line.getLast?.any isBlankPiece then line.dropLast else line

/-- One line and the pieces that are left.  A piece wider than the width is broken. -/
def nextLine (width : Nat) (ps : List (List Char)) : List (List Char) × List (List Char) :=
  match fill width ps with
  | (line, []) => (line, [])
  | (line, piece :: rest) =>
    if width < piece.length then
      let cutAt := breakAt (width - line.flatten.length) piece
      (line ++ [piece.take cutAt], piece.drop cutAt :: rest)
    else (line, piece :: rest)

/-- The lines of pieces, at most `limit` of them.  Blanks at the start of a line are dropped,
except in front of the first one. -/
def linesOf (width : Nat) : Nat → Bool → List (List Char) → List String
  | 0, _, _ => []
  | _, _, [] => []
  | limit + 1, isFirst, piece :: rest =>
    let ps := if !isFirst && isBlankPiece piece then rest else piece :: rest
    let (line, left) := nextLine width ps
    match dropBlankEnd line with
    | [] => linesOf width limit isFirst left
    | line => String.ofList line.flatten :: linesOf width limit false left

/-- Bring every run of blanks to one space, and drop the blanks at both ends. -/
def collapseBlanks : List Char → List Char
  | [] => []
  | c :: rest =>
    if isAsciiBlank c then
      if (rest.head?.map isAsciiBlank).getD false then collapseBlanks rest
      else ' ' :: collapseBlanks rest
    else c :: collapseBlanks rest

/-- A paragraph in lines of at most `width` characters. -/
def wrap (width : Nat) (paragraph : String) : List String :=
  let cs := trimBy (fun c => isBlankPiece [c]) (collapseBlanks paragraph.toList)
  linesOf width (cs.length + 1) true (pieces cs.length [] cs)

end ServerBrowser.Text
