import ServerBrowser.Address.Master
import ServerBrowser.Binary64.Reading
import ServerBrowser.CommandLine.Switch

/-!
# Options of the command line

The arguments are first marked, all of them: as a switch, as an unknown switch, or as a plain
argument.  A long switch may be cut short as long as only one switch starts that way, and a value
may follow it after an equals sign.  After two hyphens alone every argument is plain, and so is a
negative number and a text with a space in it.

Then the switches are carried out in order, each with the value that belongs to it; the first that
asks for help or for the version ends the reading.  Plain arguments that belong to no switch and
unknown switches are told at the end, after the default address was looked at.
-/

namespace ServerBrowser.CommandLine

open Text

/-- What the command line asks for. -/
structure Options where
  master : String × Int
  appIds : List Int
  filters : List String
  timeout : Option Binary64
  debug : Bool
deriving DecidableEq

/-- What is to be done. -/
inductive Request where
  | run (options : Options)
  | help
  | version
deriving DecidableEq

/-! ## marking the arguments -/

/-- A value that stands in the same argument as its switch. -/
inductive Attached where
  | none
  /-- After an equals sign. -/
  | equals (value : String)
  /-- Right after a short switch. -/
  | tail (value : String)
deriving DecidableEq, Repr

/-- What an argument is. -/
inductive Mark where
  | plain
  | separator
  | unknown
  | switch (s : Switch) (isShort : Bool) (attached : Attached)
deriving DecidableEq, Repr

/-- Cut a text at its first equals sign. -/
def splitEquals? (cs : List Char) : Option (List Char × List Char) :=
  match cs.dropWhile (· != '=') with
  | [] => none
  | _ :: value => some (cs.takeWhile (· != '='), value)

/-- Whether a text is a negative number: a minus and digits, with a point before the last of them
or not. -/
def isNegativeNumber (cs : List Char) : Bool :=
  let isDigit := fun c => (digitValue? c).isSome
  let digits := fun cs : List Char => !cs.isEmpty && cs.all isDigit
  match (if cs.getLast? = some '\n' then cs.dropLast else cs) with
  | '-' :: number =>
    digits number || (match number.dropWhile isDigit with
      | '.' :: fraction => digits fraction
      | _ => false)
  | _ => false

/-- The switches that an argument may be short for. -/
def candidates (cs : List Char) : List (String × Mark) :=
  match cs with
  | '-' :: '-' :: _ =>
    let (start, attached) := match splitEquals? cs with
      | some (start, value) => (start, Attached.equals (String.ofList value))
      | none => (cs, .none)
    (Switch.startingWith start).map fun (spelling, s) =>
      (spelling, .switch s (spelling.length = 2) attached)
  | _ =>
    Switch.table.filterMap fun (spelling, s) =>
      if spelling.toList = cs.take 2 then
        some (spelling, .switch s true (.tail (String.ofList (cs.drop 2))))
      else if cs.isPrefixOf spelling.toList then some (spelling, .switch s false .none)
      else none

/-- Mark an argument that starts with a hyphen and is no switch in full. -/
def markOther (argument : String) : Except String Mark :=
  let cs := argument.toList
  match candidates cs with
  | [(_, mark)] => .ok mark
  | [] => .ok (if isNegativeNumber cs || cs.contains ' ' then .plain else .unknown)
  | several =>
    .error (s!"ambiguous option: {argument} could match " ++
      ", ".intercalate (several.map (·.1)))

/-- Mark an argument. -/
def mark (argument : String) : Except String Mark :=
  match argument.toList with
  | '-' :: _ :: _ =>
    match Switch.ofSpelling? argument with
    | some s => .ok (.switch s (argument.length = 2) .none)
    | none =>
      match splitEquals? argument.toList with
      | none => markOther argument
      | some (start, value) =>
        match Switch.ofSpelling? (String.ofList start) with
        | some s => .ok (.switch s (start.length = 2) (.equals (String.ofList value)))
        | none => markOther argument
  | _ => .ok .plain

/-- Mark all arguments. -/
def markAll : List String → Except String (List (String × Mark))
  | [] => .ok []
  | "--" :: rest => .ok (("--", .separator) :: rest.map (·, .plain))
  | argument :: rest => do
    let first ← mark argument
    let marks ← markAll rest
    return (argument, first) :: marks

/-! ## carrying out the switches -/

/-- What was read so far. -/
structure Progress where
  master : Option (String × Int) := none
  appIds : List Int := []
  filters : List String := []
  timeout : Option Binary64 := none
  debug : Bool := false
  /-- Arguments that belong to nothing. -/
  extras : List String := []

/-- A message about a switch. -/
def about (s : Switch) (message : String) : String :=
  s!"argument {s.name}: {message}"

/-- Read an address. -/
def readMaster (value : String) : Except String (String × Int) :=
  (MasterAddress.ofArgument value).mapError fun fault => about .master fault.message

/-- Take the value of a switch. -/
def Progress.take (p : Progress) (s : Switch) (value : String) : Except String Progress :=
  match s with
  | .master => do
    let master ← readMaster value
    return { p with master := some master }
  | .appId =>
    match readInt value with
    | .ok n => .ok { p with appIds := p.appIds ++ [n] }
    | .error _ => .error (about s ("invalid int value: " ++ quoted value))
  | .timeout =>
    match Binary64.readNumber? value with
    | some x => .ok { p with timeout := some x }
    | none => .error (about s ("invalid float value: " ++ quoted value))
  | .filter => .ok { p with filters := p.filters ++ [value] }
  | .help | .debug | .version => .ok p

/-- Whether a switch without a value takes what is attached to it.  A short one takes a tail: of
further short switches, or of anything, which is then ignored. -/
def checkTail (s : Switch) (isShort : Bool) : Bool → List Char → Except String Unit
  | afterEquals, tail =>
    let refused : Except String Unit :=
      .error (about s ("ignored explicit argument " ++ quoted (String.ofList tail)))
    match tail with
    | [] => refused
    | c :: rest =>
      if afterEquals || !isShort || c = '-' then refused
      else if c = 'h' then
        match rest with
        | [] => .ok ()
        | '=' :: rest => checkTail s isShort true rest
        | rest => checkTail s isShort false rest
      else .ok ()

/-- Whether a switch without a value may be written as it is. -/
def checkAttached (s : Switch) (isShort : Bool) : Attached → Except String Unit
  | .none => .ok ()
  | .equals value => checkTail s isShort true value.toList
  | .tail value => checkTail s isShort false value.toList

/-- What is asked for when all arguments are read. -/
def Progress.finish (p : Progress) (defaultMaster : String) : Except String Request := do
  let master ← match p.master with
    | some master => pure master
    | none => readMaster defaultMaster
  if p.extras.isEmpty then
    return .run ⟨master, p.appIds, p.filters, p.timeout, p.debug⟩
  else .error ("unrecognized arguments: " ++ " ".intercalate p.extras)

/-- Carry out the marked arguments. -/
def carryOut (defaultMaster : String) : Progress → List (String × Mark) → Except String Request
  | p, [] => p.finish defaultMaster
  | p, (_, .switch s isShort attached) :: rest =>
    if s.takesValue then
      match attached, rest with
      | .equals value, rest | .tail value, rest => do
        let p ← p.take s value
        carryOut defaultMaster p rest
      | .none, (value, .plain) :: rest => do
        let p ← p.take s value
        carryOut defaultMaster p rest
      | .none, _ => .error (about s "expected one argument")
    else do
      checkAttached s isShort attached
      match s with
      | .help => return .help
      | .version => return .version
      | _ => carryOut defaultMaster { p with debug := true } rest
  | p, (argument, _) :: rest =>
    carryOut defaultMaster { p with extras := p.extras ++ [argument] } rest

/-- Read the arguments of the command line, or say what is wrong with them. -/
def readArguments (defaultMaster : String) (arguments : List String) : Except String Request := do
  carryOut defaultMaster {} (← markAll arguments)

end ServerBrowser.CommandLine
