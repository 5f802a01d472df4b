import ServerBrowser.Log.Level
import ServerBrowser.Template

/-!
# Where log records go

The registry knows a level for the root and for some loggers by name.  A logger without a level of
its own takes that of its nearest ancestor, where the name up to a dot is an ancestor of the whole
name; the last ancestor is the root.  A record is written when its level is positive and reaches
its logger's level.

Setting up replaces the one stream that records are written to.  Levels of named loggers stay.
-/

namespace ServerBrowser.Log

/-- The levels of loggers. -/
structure Registry where
  /-- The level of the root. -/
  root : Int
  /-- The levels of named loggers; the first entry of a name counts. -/
  named : List (String × Int)
  /-- Whether records are written anywhere. -/
  writing : Bool
deriving DecidableEq, Repr

namespace Registry

/-- Nothing is written before the first set-up.  A handler of last resort, which until then would
write warnings and graver records to standard error, is left out; the root of a log that has one
starts at the level of warnings, not at the critical one as here. -/
def initial : Registry :=
  ⟨critical, [], false⟩

/-- Whether a name is that of the root. -/
def isRoot (logger : String) : Bool :=
  logger = "" || logger = "root"

/-- Give a logger a level. -/
def setLevel (r : Registry) (logger : String) (level : Int) : Registry :=
  if isRoot logger then { r with root := level } else { r with named := (logger, level) :: r.named }

/-- Set up anew: the root takes the level, the loggers named take the lowest one. -/
def setup (r : Registry) (level : Int) (debugged : List String) : Registry :=
  debugged.foldl (setLevel · · debug) { r with root := level, writing := true }

/-- The level of a logger of its own; zero where it has none. -/
def ownLevel (r : Registry) (logger : String) : Int :=
  (r.named.lookup logger).getD 0

/-- The ancestors below the root of a logger whose name is given backwards, the nearest first.  A
name is never empty, so neither a dot at its start nor one next to a dot ends an ancestor. -/
def ancestorsFrom : List Char → List String
  | [] => []
  | '.' :: c :: rest => String.ofList (c :: rest).reverse :: ancestorsFrom rest
  | _ :: rest => ancestorsFrom rest

/-- A logger and its ancestors below the root, the nearest first. -/
def lineage (logger : String) : List String :=
  logger :: ancestorsFrom logger.toList.reverse

example : lineage "a.b.c" = ["a.b.c", "a.b", "a"] := by decide +kernel
example : lineage "a..b" = ["a..b", "a."] := by decide +kernel

/-- The level that counts for a logger: the nearest one that is not zero. -/
def effectiveLevel (r : Registry) (logger : String) : Int :=
  if isRoot logger then r.root
  else (((lineage logger).map r.ownLevel).find? (· ≠ 0)).getD r.root

/-- Whether a record of a level is written. -/
def isEnabled (r : Registry) (logger : String) (level : Int) : Bool :=
  r.writing && 0 < level && r.effectiveLevel logger ≤ level

/-- The line of a record. -/
def line (time : String) (record : Record) : String :=
  let logger := if isRoot record.logger then "root" else record.logger
  s!"{time} [{levelText record.level}] {logger}: {record.text}\n"

/-- What is written for a record. -/
def write (r : Registry) (time : String) (record : Record) : String :=
  if r.isEnabled record.logger record.level then line time record else ""

/-- The values of a template in a log call: one object that is not empty gives them by name. -/
def templateValues : List Json → Template.Values
  | [.obj (member :: members)] => .ofMembers (member :: members)
  | values => .ofList values

/-- The text of a log call; without values the template is the text. -/
def callText (template : String) (values : List Json) : Except Template.Fault String :=
  if values.isEmpty then .ok template else Template.format template (templateValues values)

/-- What is written for a log call; nothing where the template cannot be formatted. -/
def writeCall (r : Registry) (time logger : String) (level : Int) (template : String)
    (values : List Json) : String :=
  match callText template values with
  | .ok text => r.write time ⟨logger, level, text⟩
  | .error _ => ""

end Registry

end ServerBrowser.Log
