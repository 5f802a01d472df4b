import ServerBrowser.Browser
import ServerBrowser.CommandLine.Options
import ServerBrowser.CommandLine.Usage
import ServerBrowser.Settings.Configuration

/-!
# The program

The program reads its arguments, sets up the log and asks the master server.  Servers go to
standard output, one in a line, as the pages come; the log and the number of servers go to standard
error.  The exit code is 0 when the listing came to its end, 1 when the query failed, and 2 when the
arguments are wrong.

An argument need not be text.  A byte of it that is none comes as a lone surrogate, and a character
of the argument stands for it (`Console.surrogate?`).  A filter with such a byte cannot be sent.
-/

namespace ServerBrowser.CommandLine

/-- The world around the program. -/
structure Console (m : Type → Type) (S : Type) where
  world : Surroundings m S
  /-- Write to standard output. -/
  print : String → m Unit
  /-- Write to standard error. -/
  report : String → m Unit
  /-- Set up the log: the level of the root, and the loggers set to the lowest level. -/
  setUpLog : Int → List String → m Unit
  /-- The lone surrogate that a character of an argument stands for, where it stands for one. -/
  surrogate? : Char → Option UInt16 := fun _ => none

/-- The filters that options ask for: app ids first. -/
def Options.filterTokens (options : Options) : List String :=
  options.appIds.map (fun id => Filter.token "appid" (toString id)) ++ options.filters

/-- The settings that options leave: a time to wait takes the place of the configured one. -/
def Options.settings (options : Options) (settings : Settings) : Settings :=
  match options.timeout with
  | some timeout => settings.withTimeout timeout
  | none => settings

/-- Whom the options ask. -/
def Options.client (options : Options) (settings : Settings) : Client :=
  ⟨.pair options.master.1 options.master.2, options.settings settings⟩

/-- The text of a page: a server in each line. -/
def pageText (page : List ServerAddress) : String :=
  String.join (page.map fun server => server.text ++ "\n")

/-- Why a filter has no bytes to be sent, where it has none. -/
def filterFault? (surrogate? : Char → Option UInt16) (token : String) : Option Fault :=
  (Text.surrogates? surrogate? 0 token.toList).map .surrogates

variable {m : Type → Type} [Monad m] {S : Type}

/-- The listener that prints servers. -/
def printer (console : Console m S) : Listener m := fun page => do
  console.print (pageText page)
  return .ok page

/-- Run a query for the options; the exit code.  Faults outside the family are not caught. -/
def runQuery [MonadStateOf Browser m] (console : Console m S) (configuration : Configuration)
    (options : Options) (limit : Nat) : m (Except Fault Nat) := do
  match Log.level configuration.level with
  | .error fault => return .error fault
  | .ok level =>
    console.setUpLog level (if options.debug then Log.componentLoggers else [])
    set ({ filters := options.filterTokens } : Browser)
    let client := options.client configuration.master
    let (batches, refusal) := Filter.batchesUpTo (filterFault? console.surrogate?)
      client.settings.filterBudget options.filterTokens
    match ← Browser.queryBatches client console.world (printer console) limit batches refusal with
    | .ok total =>
      console.report s!"{total} server(s)\n"
      return .ok 0
    | .error fault =>
      if fault.inFamily then
        console.world.log
          ⟨Log.programLogger, Log.error, "Master query failed: " ++ fault.message⟩
        return .ok 1
      else return .error fault

/-- Run the program; its exit code. -/
def run [MonadStateOf Browser m] (console : Console m S) (configuration : Configuration)
    (arguments : List String) (limit : Nat) : m (Except Fault Nat) := do
  let defaultMaster := configuration.master.address
  match readArguments defaultMaster arguments with
  | .error message =>
    console.report (usageError message)
    return .ok 2
  | .ok .version =>
    console.print versionText
    return .ok 0
  | .ok .help =>
    match helpText defaultMaster with
    | .error why => return .error (.template why)
    | .ok text =>
      console.print text
      return .ok 0
  | .ok (.run options) => runQuery console configuration options limit

end ServerBrowser.CommandLine
