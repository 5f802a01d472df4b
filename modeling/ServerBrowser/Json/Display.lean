import ServerBrowser.Binary64.Printing
import ServerBrowser.Json
import ServerBrowser.Text.Quoted

/-!
# Values in messages

Filters and log messages show values in two forms: plain, where a text is shown as it is, and
quoted, where a text stands between quotes.  Inside arrays and objects a value is always quoted.
-/

namespace ServerBrowser.Json

open Text

mutual

/-- A value as it stands inside another one: texts are quoted. -/
def quotedBy (quote : String → String) : Json → String
  | null => "None"
  | bool true => "True"
  | bool false => "False"
  | int n => toString n
  | real x => x.text
  | str s => quote s
  | arr items => "[" ++ ", ".intercalate (quotedItems quote items) ++ "]"
  | obj members => "\x7b" ++ ", ".intercalate (quotedMembers quote members) ++ "\x7d"

/-- The items of an array, each quoted. -/
def quotedItems (quote : String → String) : List Json → List String
  | [] => []
  | item :: rest => quotedBy quote item :: quotedItems quote rest

/-- The members of an object, names and values quoted. -/
def quotedMembers (quote : String → String) : List (String × Json) → List String
  | [] => []
  | (name, value) :: rest =>
    (quote name ++ ": " ++ quotedBy quote value) :: quotedMembers quote rest

end

/-- A value with texts quoted. -/
def quoted (value : Json) : String :=
  quotedBy Text.quoted value

/-- A value with texts quoted and characters beyond ASCII escaped. -/
def quotedAscii (value : Json) : String :=
  quotedBy Text.quotedAscii value

/-- A value as it is shown on its own: a text stays as it is. -/
def display : Json → String
  | str s => s
  | value => quoted value

@[simp] theorem display_str (s : String) : display (.str s) = s := by
  simp [display]

/-- The word that messages use for the kind of a value. -/
def kindName : Json → String
  | null => "NoneType"
  | bool _ => "bool"
  | int _ => "int"
  | real _ => "float"
  | str _ => "str"
  | arr _ => "list"
  | obj _ => "dict"

end ServerBrowser.Json
