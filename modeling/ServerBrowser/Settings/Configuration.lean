import ServerBrowser.Settings.Fields
import ServerBrowser.Settings.Sources

/-!
# The configuration of the program

The configuration has two sections: the settings of queries and the level of the log.  Each value is
taken from the first source that gives it: the configuration file, the environment, the caller, and
last the default.

A file that cannot be read is told first, then a variable that cannot be read; only values that
every source could give are checked.
-/

namespace ServerBrowser

/-- The configuration of the program. -/
structure Configuration where
  master : Settings := .standard
  /-- The name of the level of the log, in capitals. -/
  level : String := "INFO"
deriving DecidableEq

namespace Configuration

/-- Where a configuration is read from. -/
structure Sources where
  /-- The text of the configuration file, where there is one. -/
  file : Option String := none
  /-- The environment, variable by variable. -/
  environment : List (String × String) := []
  /-- What the caller gives. -/
  given : Json.Members := []

/-- Why there is no configuration. -/
inductive Failure where
  | badFile (why : JsonFault)
  | noMembers
  | badVariable (why : Settings.BadVariable)
  | invalid (complaints : List Complaint)
deriving DecidableEq, Repr

/-- The members of the configuration file.  A file that is missing or blank has none. -/
def readFile : Option String → Except Failure Json.Members
  | none => .ok []
  | some text =>
    if (Text.trimBy Text.isBlank text.toList).isEmpty then .ok []
    else match Json.read text with
      | .error why => .error (.badFile why)
      | .ok value =>
        match Settings.fileMembers? value with
        | some members => .ok members
        | none => .error .noMembers

/-- The first of two values where both may be missing; objects are merged. -/
def orElse : Option Json → Option Json → Option Json
  | some first, some second => some (Settings.merge first second)
  | some first, none => some first
  | none, second => second

/-- The fields of the two sections. -/
def masterFields : List String :=
  ["host", "port", "timeout", "max_filter_length", "retry_count", "retry_delay", "region"]

def loggingFields : List String := ["level"]

/-- Read a section: an object, or nothing. -/
def readSection (name : String) (fallback : α) (read : Json.Members → Checked α) :
    Option Json → Checked α
  | none => .ok fallback
  | some (.obj members) => (read members).under name
  | some _ => .error [⟨[name], .notMembers⟩]

/-- Read a configuration. -/
def load (sources : Sources) : Except Failure Configuration := do
  let file ← readFile sources.file
  let environment := Settings.foldNames sources.environment
  let fromEnvironment := fun name fields =>
    (Settings.environmentSection environment name fields).mapError Failure.badVariable
  let masterVariables ← fromEnvironment "master" masterFields
  let loggingVariables ← fromEnvironment "logging" loggingFields
  let merged := fun name fromHere =>
    orElse (Settings.sectionOf? file name)
      (orElse fromHere (Settings.sectionOf? sources.given name))
  let master := readSection "master" .standard Settings.ofMembers (merged "master" masterVariables)
  let level := readSection "logging" "INFO" Settings.levelOfMembers
    (merged "logging" loggingVariables)
  match master.both level with
  | .ok (master, level) => return { master, level }
  | .error complaints => .error (.invalid complaints)

end Configuration

end ServerBrowser
