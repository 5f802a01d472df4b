import ServerBrowser.Json.Display

/-!
# Filters

A filter token is a key and a value, each after a backslash.  Tokens go on the wire as UTF-8.
-/

namespace ServerBrowser.Filter

/-- The token of a key and the text of a value. -/
def token (key value : String) : String :=
  "\\" ++ key ++ "\\" ++ value

/-- The token of a key and a value of any kind. -/
def ofValue (key : String) (value : Json) : String :=
  token key value.display

/-- The bytes of a token. -/
def encode (token : String) : List UInt8 :=
  token.toUTF8.data.toList

/-- How many bytes a token takes. -/
def size (token : String) : Nat :=
  token.utf8ByteSize

@[simp] theorem length_encode (token : String) : (encode token).length = size token := rfl

end ServerBrowser.Filter
