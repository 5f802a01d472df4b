/-!
# Log records

Each part of the browser says what it does through records of a logger of its own.  A record is a
value; where records go, and which of them, is for a `Log.Registry` to decide.
-/

namespace ServerBrowser.Log

/-- The levels of records, by rising weight. -/
def debug : Int := 10
def info : Int := 20
def warning : Int := 30
def error : Int := 40
def critical : Int := 50

/-- The logger of packets' contents. -/
def packetLogger : String := "masterquery.raw.master_protocol"

/-- The logger of listings. -/
def listingLogger : String := "masterquery.client.pagination"

/-- The logger of whole queries. -/
def browserLogger : String := "masterquery.client.querier"

/-- The logger of sockets. -/
def socketLogger : String := "masterquery.util.udp_socket"

/-- The logger of the command line. -/
def programLogger : String := "masterquery.main"

/-- The loggers of the parts, which can be set to the lowest level on their own. -/
def componentLoggers : List String :=
  [packetLogger, listingLogger, browserLogger, socketLogger]

/-- One thing that a part has to say. -/
structure Record where
  logger : String
  level : Int
  text : String
deriving DecidableEq, Repr

end ServerBrowser.Log
