/-!
# Switches of the command line

A switch has one or two spellings and may take a value.  The order of the spellings is the order in
which messages list them.
-/

namespace ServerBrowser.CommandLine

/-- The switches. -/
inductive Switch where
  | help
  | master
  | appId
  | filter
  | timeout
  | debug
  | version
deriving DecidableEq, Repr

namespace Switch

/-- The switches in the order of the help text. -/
def all : List Switch :=
  [help, master, appId, filter, timeout, debug, version]

/-- How a switch is written. -/
def spellings : Switch → List String
  | help => ["-h", "--help"]
  | master => ["--master"]
  | appId => ["--appid"]
  | filter => ["--filter"]
  | timeout => ["--timeout"]
  | debug => ["--debug"]
  | version => ["--version"]

/-- The word for the value of a switch that takes one. -/
def valueName? : Switch → Option String
  | master => some "MASTER"
  | appId => some "APPID"
  | filter => some "FILTERS"
  | timeout => some "TIMEOUT"
  | help | debug | version => none

/-- Whether a switch takes a value. -/
def takesValue (s : Switch) : Bool :=
  s.valueName?.isSome

/-- The name of a switch in messages. -/
def name (s : Switch) : String :=
  "/".intercalate s.spellings

/-- All spellings, each with its switch. -/
def table : List (String × Switch) :=
  all.flatMap fun s => s.spellings.map (·, s)

/-- The switch of a spelling. -/
def ofSpelling? (spelling : String) : Option Switch :=
  table.lookup spelling

/-- The spellings that start with a text. -/
def startingWith (start : List Char) : List (String × Switch) :=
  table.filter fun (spelling, _) => start.isPrefixOf spelling.toList

end Switch

end ServerBrowser.CommandLine
