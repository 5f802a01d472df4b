import ServerBrowser.Log
import ServerBrowser.Packet.Reader
import ServerBrowser.Text.Hex

/-!
# Response packets

A response is a header of six bytes and a row of records.  The null record ends the listing, and
what follows it in the packet is ignored, as are bytes at the end that make no whole record.
-/

namespace ServerBrowser

/-- One page of a listing. -/
structure Page where
  servers : List ServerAddress
  /-- Whether the null record was seen: no page follows. -/
  isLast : Bool
deriving DecidableEq, Repr

namespace Response

/-- The bytes that a response starts with. -/
def header : List UInt8 := [0xFF, 0xFF, 0xFF, 0xFF, 0x66, 0x0A]

/-- Whether a packet starts with the header. -/
def hasHeader (packet : List UInt8) : Bool :=
  header.isPrefixOf packet

/-- What follows the header. -/
def body (packet : List UInt8) : List UInt8 :=
  packet.drop header.length

/-- How many whole records a packet has room for. -/
def recordCount (packet : List UInt8) : Nat :=
  (body packet).length / ServerAddress.recordSize

/-- Read so many records, or up to the null record. -/
def readRecords : Nat → List UInt8 → Except Fault Page
  | 0, _ => .ok ⟨[], false⟩
  | count + 1, bytes => do
    let (server, rest) ← Packet.readAddress bytes
    if server.isNull then return ⟨[], true⟩
    else
      let page ← readRecords count rest
      return { page with servers := server :: page.servers }

/-- The page of a response. -/
def parse (packet : List UInt8) : Except Fault Page :=
  if !hasHeader packet then .error .badHeader
  else if recordCount packet = 0 then .error .emptyPage
  else readRecords (recordCount packet) (body packet)

/-- What is said about a packet while it is parsed: a wrong header, or bytes left over. -/
def remarks (packet : List UInt8) : List Log.Record :=
  let leftover := (body packet).length % ServerAddress.recordSize
  if !hasHeader packet then
    [⟨Log.packetLogger, Log.debug,
      "Bad response header: " ++ Text.spacedHex (packet.take header.length)⟩]
  else if recordCount packet ≠ 0 ∧ leftover ≠ 0 then
    [⟨Log.packetLogger, Log.debug,
      s!"Ignoring {leftover} trailing bytes after {recordCount packet} records"⟩]
  else []

end Response

end ServerBrowser
