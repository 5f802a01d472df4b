/-!
# Ranges of code points

A property of characters that a standard fixes as data is a list of ranges of code points, in
ascending order.  `inRanges` looks a character up in such a list; the tables themselves stand
in modules named for their property.
-/

namespace ServerBrowser.Text

/-- A range of code points, both ends included. -/
abbrev CodeRange := Nat × Nat

/-- Whether a character lies in one of the ranges. -/
def inRanges (ranges : List CodeRange) (c : Char) : Bool :=
  ranges.any fun (first, last) => first ≤ c.toNat && c.toNat ≤ last

end ServerBrowser.Text
