import ServerBrowser.Fault

/-!
# Master addresses

A master server is named by one text, `host:port`, or by a host and a port.  The last colon of the
text divides it, so a host may hold colons; the port may be written in every way that an integer
may be written in.
-/

namespace ServerBrowser

/-- The address of a master server. -/
inductive MasterAddress where
  | text (address : String)
  | pair (host : String) (port : Int)
deriving DecidableEq, Repr

namespace MasterAddress

/-- What stands before and after the last separator of a text. -/
def splitLast? (separator : Char) : List Char → Option (List Char × List Char)
  | [] => none
  | c :: rest =>
    match splitLast? separator rest with
    | some (before, after) => some (c :: before, after)
    | none => if c = separator then some ([], rest) else none

theorem splitLast?_append {separator : Char} (before : List Char) {after : List Char}
    (h : separator ∉ after) :
    splitLast? separator (before ++ separator :: after) = some (before, after) := by
  have habsent : ∀ cs : List Char, separator ∉ cs → splitLast? separator cs = none := by
    intro cs
    induction cs with
    | nil => intro _; rfl
    | cons c cs ih =>
      intro hcs
      simp only [List.mem_cons, not_or] at hcs
      simp [splitLast?, ih hcs.2, Ne.symm hcs.1]
  induction before with
  | nil => simp [splitLast?, habsent after h]
  | cons c before ih => simp [splitLast?, ih]

/-- The parts put together again are the text. -/
theorem eq_of_splitLast? {separator : Char} {cs before after : List Char}
    (h : splitLast? separator cs = some (before, after)) : cs = before ++ separator :: after := by
  induction cs generalizing before with
  | nil => simp [splitLast?] at h
  | cons c cs ih =>
    simp only [splitLast?] at h
    split at h
    · next b a hfound =>
      simp only [Option.some.injEq, Prod.mk.injEq] at h
      obtain ⟨rfl, rfl⟩ := h
      simp [ih hfound]
    · split at h
      · next hsame =>
        simp only [Option.some.injEq, Prod.mk.injEq] at h
        obtain ⟨rfl, rfl⟩ := h
        simp [hsame]
      · simp at h

/-- The host and the port of an address text. -/
def splitText (address : String) : Except Fault (String × Int) :=
  match splitLast? ':' address.toList with
  | none => .error (.noPort address)
  | some (host, port) =>
    if host.isEmpty || port.isEmpty then .error (.noPort address)
    else match Text.readInt (String.ofList port) with
      | .error why => .error (.numeral why)
      | .ok port => .ok (String.ofList host, port)

/-- The host and the port of a master address. -/
def split : MasterAddress → Except Fault (String × Int)
  | text address => splitText address
  | pair host port => .ok (host, port)

/-- The address as one text. -/
def display : MasterAddress → String
  | text address => address
  | pair host port => s!"{host}:{port}"

/-- Read an address argument: a host and a port that a server can have. -/
def ofArgument (address : String) : Except Fault (String × Int) :=
  match splitText address with
  | .error _ => .error (.badArgument address)
  | .ok (host, port) =>
    if 0 < port ∧ port < 65536 then .ok (host, port) else .error (.portArgument port)

end MasterAddress

end ServerBrowser
