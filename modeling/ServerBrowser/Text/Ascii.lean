import ServerBrowser.Text.Quoted

/-!
# ASCII bytes of a text

A text goes into a packet as ASCII, one byte a character.  A text with other characters has no
such form; the failure names the first of them, with the run of its neighbours that fail too.
-/

namespace ServerBrowser.Text

/-- Whether a character is one of ASCII's. -/
def isAscii (c : Char) : Bool :=
  c.toNat < 0x80

/-- Why a text has no ASCII bytes: the first run of characters beyond ASCII. -/
structure NonAscii where
  /-- The first character of the run. -/
  char : Char
  /-- Its position. -/
  position : Nat
  /-- How many characters the run has. -/
  count : Nat
deriving DecidableEq, Repr

/-- The first run of characters beyond ASCII. -/
def nonAscii? (cs : List Char) : Option NonAscii :=
  match cs.dropWhile isAscii with
  | [] => none
  | c :: rest => some ⟨c, (cs.takeWhile isAscii).length, 1 + (rest.takeWhile (!isAscii ·)).length⟩

theorem nonAscii?_eq_none_iff (cs : List Char) :
    nonAscii? cs = none ↔ ∀ c ∈ cs, isAscii c = true := by
  induction cs with
  | nil => simp [nonAscii?]
  | cons c cs ih =>
    cases h : isAscii c with
    | false => simp [nonAscii?, h]
    | true =>
      rw [List.forall_mem_cons, ← ih]
      simp only [nonAscii?, List.dropWhile_cons, h, if_true, true_and]
      split <;> simp_all

/-- The ASCII bytes of a text. -/
def asciiBytes (text : String) : Except NonAscii (List UInt8) :=
  match nonAscii? text.toList with
  | some run => .error run
  | none => .ok (text.toList.map fun c => UInt8.ofNat c.toNat)

/-- The text of the failure: one position, or the first and the last one of a run. -/
def NonAscii.message (run : NonAscii) : String :=
  "'ascii' codec can't encode " ++
    (if run.count = 1 then s!"character '{codeEscape run.char}' in position {run.position}"
     else s!"characters in position {run.position}-{run.position + run.count - 1}") ++
    ": ordinal not in range(128)"

end ServerBrowser.Text
