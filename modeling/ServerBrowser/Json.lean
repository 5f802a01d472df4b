import ServerBrowser.Binary64

/-!
# JSON values

A JSON value keeps integers apart from binary numbers, and an object keeps its members in the order
in which their names first came.  `insert` is what reading an object does member by member: a name
that comes again takes the later value and keeps its place.
-/

namespace ServerBrowser

/-- A JSON value. -/
inductive Json where
  | null
  | bool (value : Bool)
  | int (value : Int)
  | real (value : Binary64)
  | str (value : String)
  | arr (items : List Json)
  | obj (members : List (String × Json))
deriving Repr, Inhabited

namespace Json

/-- The members of an object, in order. -/
abbrev Members := List (String × Json)

/-- The value of a name among the members of an object. -/
def find? : Members → String → Option Json
  | [], _ => none
  | (other, value) :: rest, name => if other = name then some value else find? rest name

/-- Give a name a value: in its place where the name is known, at the end where it is new. -/
def insert (members : Members) (name : String) (value : Json) : Members :=
  match members with
  | [] => [(name, value)]
  | (other, old) :: rest =>
    if other = name then (name, value) :: rest else (other, old) :: insert rest name value

theorem find?_insert (members : Members) (name other : String) (value : Json) :
    find? (insert members name value) other =
      if name = other then some value else find? members other := by
  induction members with
  | nil => simp [insert, find?]
  | cons head rest ih =>
    obtain ⟨first, old⟩ := head
    by_cases hfirst : first = name
    · by_cases hname : name = other <;> simp [insert, find?, hfirst, hname]
    · by_cases hother : first = other
      · subst hother
        simp [insert, find?, hfirst, Ne.symm hfirst]
      · simp [insert, find?, hfirst, hother, ih]

/-- The member of that name, where the value is an object and has one. -/
def field? : Json → String → Option Json
  | obj members, name => find? members name
  | _, _ => none

/-- The members of an object; another value has none. -/
def members : Json → Members
  | obj members => members
  | _ => []

end Json

end ServerBrowser
