import ServerBrowser.Filter
import ServerBrowser.Packet.Field

/-!
# Query packets

A query asks for the servers that follow a cursor.  It is laid out as

```
0x31   region   cursor text, 0x00   filters
```

where the filters are two zero bytes, or the token that counts them, their own tokens and a zero
byte.
-/

namespace ServerBrowser

/-- A query for one page of servers. -/
structure Query where
  /-- The text of the server to go on after. -/
  cursor : String
  filters : List String
  region : Int
deriving DecidableEq, Repr

namespace Query

/-- The byte that a query starts with. -/
def magic : UInt8 := 0x31

/-- The filters of a packet: any server that one of them matches. -/
def filterBytes : List String → List UInt8
  | [] => [0, 0]
  | filters =>
    Filter.encode (Filter.token "or" (toString filters.length)) ++
      filters.flatMap Filter.encode ++ [0]

/-- The packet of a query. -/
def toBytes (q : Query) : Except Fault (List UInt8) :=
  (Packet.cstring q.cursor).map fun cursor =>
    magic :: Packet.byte q.region ++ cursor ++ filterBytes q.filters

end Query

end ServerBrowser
