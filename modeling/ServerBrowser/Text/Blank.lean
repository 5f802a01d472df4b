/-!
# White space

Three sets of blanks are in use: the six blanks of ASCII, which also end the words of a wrapped
paragraph, the blanks around an integer, and those that Unicode calls white space.
-/

namespace ServerBrowser.Text

/-- The six blanks of ASCII: tab, line feed, vertical tab, form feed, return and space. -/
def isAsciiBlank (c : Char) : Bool :=
  c == ' ' || (0x09 ≤ c.toNat && c.toNat ≤ 0x0D)

/-- The blanks beyond ASCII. -/
def isWideBlank (c : Char) : Bool :=
  let n := c.toNat
  n == 0x85 || n == 0xA0 || n == 0x1680 || (0x2000 ≤ n && n ≤ 0x200A) || n == 0x2028 ||
    n == 0x2029 || n == 0x202F || n == 0x205F || n == 0x3000

/-- The white space of Unicode. -/
def isBlank (c : Char) : Bool :=
  isAsciiBlank c || isWideBlank c

/-- Drop the characters of a class from both ends. -/
def trimBy (blank : Char → Bool) (cs : List Char) : List Char :=
  ((cs.dropWhile blank).reverse.dropWhile blank).reverse

end ServerBrowser.Text
