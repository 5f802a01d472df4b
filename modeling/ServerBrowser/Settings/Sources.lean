import ServerBrowser.Json.Reader

/-!
# Sources of settings

Settings come from a configuration file, from environment variables and from the caller, and are
merged member by member, the earlier source winning; only where both sides are objects does the
merge go on inside.

An environment variable gives a whole section as JSON, or one member of it: its name is then the
section's, two underscores, and the path of the member, with two underscores between names.  The
case of letters does not count in these names.
-/

namespace ServerBrowser.Settings

open Json

/-! ## merging -/

mutual

/-- Two values merged, the first winning. -/
def merge : Json → Json → Json
  | .obj first, .obj second => .obj (mergeMembers first second)
  | first, _ => first

/-- Members merged, the first ones winning. -/
def mergeMembers : Members → Members → Members
  | [], second => second
  | (name, value) :: rest, second =>
    let merged := match find? second name with
      | some other => merge value other
      | none => value
    mergeMembers rest (insert second name merged)

end

/-! ## the configuration file -/

/-- The characters of a text as texts of their own. -/
def letters (text : String) : List Json :=
  text.toList.map fun c => .str (String.singleton c)

/-- A member written as a pair: an array of two items or a text of two letters. -/
def pairMember? : Json → Option (String × Json)
  | .arr [.str name, value] => some (name, value)
  | .str text =>
    match letters text with
    | [.str name, value] => some (name, value)
    | _ => none
  | _ => none

/-- The members that a file gives: those of its object, or pairs. -/
def fileMembers? : Json → Option Members
  | .obj members => some members
  | .arr items => (items.mapM pairMember?).map fun pairs =>
      pairs.foldl (fun members (name, value) => insert members name value) []
  | .str "" => some []
  | _ => none

/-- Whether two names differ in the case of letters only. -/
def sameName (a b : String) : Bool :=
  a.toLower = b.toLower

/-- The value of a section: under its own name, or under a name that differs in case only. -/
def sectionOf? (members : Members) (name : String) : Option Json :=
  find? members name <|> (members.find? fun member => sameName member.1 name).map (·.2)

/-! ## the environment -/

/-- What every variable starts with. -/
def variableStart : String := "masterquery_"

/-- The variables with their names in small letters; a name that comes again takes the later
value. -/
def foldNames (pairs : List (String × String)) : Members :=
  pairs.foldl (fun members (name, value) => insert members name.toLower (.str value)) []

/-- Cut a name where two underscores stand. -/
def splitPath : List Char → List (List Char)
  | [] => [[]]
  | '_' :: '_' :: rest => [] :: splitPath rest
  | c :: rest =>
    match splitPath rest with
    | [] => [[c]]
    | first :: more => (c :: first) :: more

/-- Put a value at the end of a path.  What stands in the way and is no object stays. -/
def insertAt (members : Members) (value : Json) : List String → Members
  | [] => members
  | [name] => insert members name value
  | name :: path =>
    match find? members name with
    | none => insert members name (.obj (insertAt [] value path))
    | some (.obj inner) => insert members name (.obj (insertAt inner value path))
    | some _ => members

/-- The path of a variable within a section, where it names one. -/
def pathWithin? (sectionName name : String) : Option (List String) :=
  let start := (variableStart ++ sectionName ++ "__").toList
  if start.isPrefixOf name.toList then
    some ((splitPath (name.toList.drop start.length)).map String.ofList)
  else none

/-- The members of a section that variables give one by one. -/
def nestedMembers (environment : Members) (sectionName : String) : Members :=
  environment.foldl (fun members (name, value) =>
    match pathWithin? sectionName name with
    | some path => insertAt members value path
    | none => members) []

/-- Give members the spelling of the fields that they name. -/
def spellFields (fields : List String) (members : Members) : Members :=
  members.foldl (fun spelled (name, value) =>
    insert spelled ((fields.find? (sameName · name)).getD name) value) []

/-- A section's own variable that holds no JSON. -/
structure BadVariable where
  sectionName : String
deriving DecidableEq, Repr

/-- The value of a section in the environment: the JSON of its own variable, with the members that
other variables give below it.  The value null hides all of them. -/
def environmentSection (environment : Members) (sectionName : String) (fields : List String) :
    Except BadVariable (Option Json) := do
  let nested := nestedMembers environment sectionName
  match find? environment (variableStart ++ sectionName) with
  | some (.str text) =>
    match Json.read text with
    | .error _ => .error ⟨sectionName⟩
    | .ok .null => return none
    | .ok (.obj members) => return some (.obj (spellFields fields (mergeMembers nested members)))
    | .ok value => return some value
  | _ => return if nested.isEmpty then none else some (.obj (spellFields fields nested))

end ServerBrowser.Settings
