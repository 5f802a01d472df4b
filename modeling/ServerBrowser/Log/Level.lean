import ServerBrowser.Fault
import ServerBrowser.Log

/-!
# Level names

A level is named in any case of letters.  Two letters beyond ASCII have an ASCII capital: the
dotless i and the long s.
-/

namespace ServerBrowser.Log

/-- The names of levels; two levels have two names. -/
def levelNames : List (String × Int) :=
  [("CRITICAL", critical), ("FATAL", critical), ("ERROR", error), ("WARN", warning),
    ("WARNING", warning), ("INFO", info), ("DEBUG", debug), ("NOTSET", 0)]

/-- The capital of a letter that may stand in a level name. -/
def capital (c : Char) : Char :=
  if c = 'ı' then 'I' else if c = 'ſ' then 'S' else c.toUpper

/-- The level name that a text spells, and its level. -/
def namedLevel? (name : String) : Option (String × Int) :=
  levelNames.find? fun entry => entry.1.toList = name.toList.map capital

/-- The level of a name. -/
def level (name : String) : Except Fault Int :=
  match namedLevel? name with
  | some (_, level) => .ok level
  | none => .error (.unknownLevel name)

/-- The text of a level in a log line. -/
def levelText (level : Int) : String :=
  if level = critical then "CRITICAL"
  else if level = error then "ERROR"
  else if level = warning then "WARNING"
  else if level = info then "INFO"
  else if level = debug then "DEBUG"
  else if level = 0 then "NOTSET"
  else s!"Level {level}"

end ServerBrowser.Log
