import ServerBrowser.CommandLine.Switch
import ServerBrowser.Template
import ServerBrowser.Text.Wrap

/-!
# Usage and help texts

The texts are laid out for a terminal of 80 columns: the explanations stand in a column of their
own and are wrapped.  An explanation is a template; the values that it may name describe its
switch.
-/

namespace ServerBrowser.CommandLine

/-- The name of the program. -/
def programName : String := "masterquery"

/-- The version of the program. -/
def programVersion : String := "0.1.0"

/-- The text that the version switch prints. -/
def versionText : String :=
  programName ++ " " ++ programVersion ++ "\n"

/-- How to call the program. -/
def usage : String :=
  "usage: masterquery [-h] [--master MASTER] [--appid APPID] [--filter FILTERS]\n" ++
  "                   [--timeout TIMEOUT] [--debug] [--version]\n"

/-- What is told about wrong arguments. -/
def usageError (message : String) : String :=
  usage ++ programName ++ ": error: " ++ message ++ "\n"

/-- The explanation of a switch, as a template. -/
def explanation (defaultMaster : String) : Switch → String
  | .help => "show this help message and exit"
  | .master => "Master server host:port (default: " ++ defaultMaster ++ ")"
  | .appId => "Filter by app id (repeatable)"
  | .filter => "Raw filter token, e.g. \\gamedir\\tf"
  | .timeout => "Seconds to wait for each response (default from config)"
  | .debug => "Enable debug logging (hex dumps of every packet)"
  | .version => "show program's version number and exit"

/-- The values that the explanation of the address may name. -/
def masterValues (defaultMaster : String) : Json.Members :=
  [("option_strings", .arr [.str "--master"]), ("dest", .str "master"), ("nargs", .null),
    ("const", .null), ("default", .str defaultMaster), ("type", .str "master_address"),
    ("choices", .null), ("required", .bool false),
    ("help", .str (explanation defaultMaster .master)), ("metavar", .null),
    ("prog", .str programName)]

/-- The explanation of a switch.  Only that of the address depends on the configuration. -/
def explain (defaultMaster : String) (s : Switch) : Except Template.Fault String :=
  match s with
  | .master =>
    Template.format (explanation defaultMaster s) (.ofMembers (masterValues defaultMaster))
  | _ => .ok (explanation defaultMaster s)

/-- The columns before the explanations. -/
def helpColumn : Nat := 21

/-- The columns of the explanations. -/
def helpWidth : Nat := 57

/-- How a switch is written in the help text. -/
def invocation (s : Switch) : String :=
  match s.valueName? with
  | some value => ", ".intercalate (s.spellings.map fun spelling => spelling ++ " " ++ value)
  | none => ", ".intercalate s.spellings

/-- A text filled up with blanks. -/
def padded (width : Nat) (text : String) : String :=
  text ++ String.ofList (List.replicate (width - text.length) ' ')

/-- The lines about a switch. -/
def switchHelp (defaultMaster : String) (s : Switch) : Except Template.Fault String := do
  let lines := Text.wrap helpWidth (← explain defaultMaster s)
  let first := padded helpColumn ("  " ++ invocation s) ++ lines.headD ""
  let more := lines.drop 1 |>.map fun line => padded helpColumn "" ++ line
  return String.join ((first :: more).map (· ++ "\n"))

/-- The help text. -/
def helpText (defaultMaster : String) : Except Template.Fault String := do
  let switches ← Switch.all.mapM (switchHelp defaultMaster)
  return usage ++ "\nQuery a game master server for its server list\n\noptions:\n" ++
    String.join switches

end ServerBrowser.CommandLine
