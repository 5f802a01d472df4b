import ServerBrowser.Fault

/-!
# Complaints about settings

Reading settings goes on after a value that does not fit, so that all complaints come together, in
the order of the fields.  `Checked.both` joins two readings: their complaints are appended.
-/

namespace ServerBrowser

/-- What does not fit about a value. -/
inductive Complaint.Reason where
  | notWhole
  | wholeText
  | wholeTooLong
  | fractional
  | notFinite
  | notReal
  | realText
  | notText
  | notMembers
  | notAbove
  | notBelow
  | tooSmall
  | tooLarge
  /-- A value that a rule of its own refuses. -/
  | refused (why : Fault)
deriving DecidableEq, Repr

/-- A value that does not fit, by the path of names to it. -/
structure Complaint where
  path : List String
  reason : Complaint.Reason
deriving DecidableEq, Repr

/-- A value that was read, or the complaints about it. -/
abbrev Checked (α : Type) := Except (List Complaint) α

namespace Checked

/-- Two readings of which neither stops the other. -/
def both (first : Checked α) (second : Checked β) : Checked (α × β) :=
  match first, second with
  | .ok a, .ok b => .ok (a, b)
  | .ok _, .error more => .error more
  | .error complaints, .ok _ => .error complaints
  | .error complaints, .error more => .error (complaints ++ more)

/-- The complaints of a reading. -/
def complaints : Checked α → List Complaint
  | .ok _ => []
  | .error complaints => complaints

/-- Complaints told from one level further up. -/
def under (name : String) : Checked α → Checked α
  | .ok a => .ok a
  | .error complaints => .error (complaints.map fun c => { c with path := name :: c.path })

theorem complaints_both (first : Checked α) (second : Checked β) :
    (both first second).complaints = first.complaints ++ second.complaints := by
  cases first <;> cases second <;> simp [both, complaints]

/-- Two readings succeed together exactly when each does. -/
theorem both_eq_ok_iff {first : Checked α} {second : Checked β} {a : α} {b : β} :
    both first second = .ok (a, b) ↔ first = .ok a ∧ second = .ok b := by
  cases first <;> cases second <;> simp [both]

end Checked

end ServerBrowser
