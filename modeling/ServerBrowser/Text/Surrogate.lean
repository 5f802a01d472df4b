import ServerBrowser.Text.Quoted

/-!
# Lone surrogates

What comes from outside as text may hold lone surrogates, which have no UTF-8 bytes: an argument of
a program has one for each of its bytes that is no text.  No character is a surrogate, so a text
with surrogates is given as a text of characters some of which stand for one, together with the
surrogate that each of these stands for.
-/

namespace ServerBrowser.Text

/-- Why a text has no UTF-8 bytes: the first run of lone surrogates in it. -/
structure Surrogates where
  /-- The first surrogate of the run. -/
  code : UInt16
  /-- Its position. -/
  position : Nat
  /-- How many surrogates the run has. -/
  count : Nat
deriving DecidableEq, Repr

/-- The first run of lone surrogates, where `surrogate?` says which characters stand for one. -/
def surrogates? (surrogate? : Char → Option UInt16) : Nat → List Char → Option Surrogates
  | _, [] => none
  | position, c :: rest =>
    match surrogate? c with
    | none => surrogates? surrogate? (position + 1) rest
    | some code =>
      some ⟨code, position, 1 + (rest.takeWhile fun other => (surrogate? other).isSome).length⟩

/-- The text of the failure: one position, or the first and the last one of a run. -/
def Surrogates.message (run : Surrogates) : String :=
  "'utf-8' codec can't encode " ++
    (if run.count = 1 then
      "character '\\u" ++ hexPadded 4 run.code.toNat ++ s!"' in position {run.position}"
     else s!"characters in position {run.position}-{run.position + run.count - 1}") ++
    ": surrogates not allowed"

/-- Without characters that stand for surrogates there are none in a text. -/
@[simp] theorem surrogates?_none (position : Nat) (cs : List Char) :
    surrogates? (fun _ => none) position cs = none := by
  induction cs generalizing position with
  | nil => rfl
  | cons c cs ih => exact ih (position + 1)

end ServerBrowser.Text
