import ServerBrowser.Binary64.Printing
import ServerBrowser.Template
import ServerBrowser.Text.Ascii
import ServerBrowser.Text.Numeral
import ServerBrowser.Text.Surrogate

/-!
# Faults

Whatever can go wrong is a `Fault`: a value that says what happened, with the fault that caused it
where there is one.  Each fault has a `kind`, a `message` and a `cause?`.

The kinds of a failed query form a family under `Kind.query`: a response that breaks the format, a
transport failure, a listener that failed, and a query that was cancelled.  `Kind.lineage` lists a
kind of the family with the more general ones; kinds outside the family have none.
-/

namespace ServerBrowser

/-- What sort of fault it is. -/
inductive Kind where
  | query
  | protocol
  | badHeader
  | emptyPage
  | truncated
  | transport
  | listener
  | cancelled
  | system
  | value
  | overflow
  | runtime
  | index
  | key
  | type
  | encoding
  | packing
  | argument
  | exhausted
deriving DecidableEq, Repr

namespace Kind

/-- Whether a kind belongs to the family of failed queries. -/
def inFamily : Kind → Bool
  | query | protocol | badHeader | emptyPage | truncated | transport | listener | cancelled => true
  | _ => false

/-- A kind of the family and the more general ones, from the most special to the most general. -/
def lineage : Kind → List Kind
  | badHeader => [badHeader, protocol, query]
  | emptyPage => [emptyPage, protocol, query]
  | truncated => [truncated, protocol, query]
  | protocol => [protocol, query]
  | transport => [transport, query]
  | listener => [listener, query]
  | cancelled => [cancelled, query]
  | query => [query]
  | _ => []

end Kind

/-- What went wrong. -/
inductive Fault where
  /-- A fault that comes from outside with a kind and a text of its own. -/
  | raised (kind : Kind) (text : String)
  /-- A failure of the operating system, with its number where it has one; `late` when the time for
  an answer is over. -/
  | system (number : Option Int) (text : String) (late : Bool)
  | badHeader
  | emptyPage
  | truncated (needed available : Int)
  /-- A text that has no ASCII bytes. -/
  | nonAscii (run : Text.NonAscii)
  /-- A text that has no UTF-8 bytes. -/
  | surrogates (run : Text.Surrogates)
  /-- A text that is no integer. -/
  | numeral (why : Text.NumeralFault)
  /-- A binary number that is no integer, since it is not finite. -/
  | notFinite (isNaN : Bool)
  /-- An address without a host or without a port. -/
  | noPort (address : String)
  /-- An address argument that is no address. -/
  | badArgument (address : String)
  /-- An address argument with a port that no server can have. -/
  | portArgument (port : Int)
  | unknownRegion (code : Int)
  | unknownLevel (name : String)
  /-- A dotted address that is none. -/
  | badDotted
  /-- A text with a null character where none may be. -/
  | embeddedNull
  /-- A port that does not fit into a record. -/
  | unpackablePort
  /-- A time that is no time limit: not a number. -/
  | limitNaN
  /-- A time that is no time limit: too many nanoseconds to count. -/
  | limitTooLarge
  /-- A time that is no time limit: below zero. -/
  | limitNegative
  /-- A time that cannot be slept: below zero. -/
  | sleepNegative
  /-- A port that cannot be connected to. -/
  | portRange
  /-- A host beyond ASCII that has no form in which names are looked up. -/
  | hostEncoding
  /-- A host with a null character. -/
  | hostNull
  | badMaster (cause : Fault)
  | notOpened (host : String) (port : Int) (cause : Fault)
  | sendAfterClose
  | receiveAfterClose
  | timedOut (seconds : Binary64) (cause : Fault)
  | sendFailed (cause : Fault)
  | receiveFailed (cause : Fault)
  | listenerFailed (cause : Fault)
  | queryCancelled
  /-- A listener took every server from a page that is not the last. -/
  | pageEmptied
  /-- Filters were added while a query runs. -/
  | filtersLocked
  /-- A help text that cannot be formatted. -/
  | template (why : Template.Fault)
  /-- The transitions or the nestings that were allowed are used up. -/
  | exhausted
deriving DecidableEq, Repr

namespace Fault

/-- The kind of a template's failure. -/
def templateKind : Template.Fault → Kind
  | .incomplete | .incompleteName | .unknownLetter .. | .notFinite true |
    .sizeTooLarge _ => .value
  | .noMember _ => .key
  | .charTooLarge | .realTooLarge | .notFinite false | .sizeOverflow _ => .overflow
  | .tooFewValues | .tooManyValues | .noMapping | .sizeNotWhole | .notWhole .. | .notNumber .. |
    .notReal _ | .notChar => .type

/-- The kind of a fault. -/
def kind : Fault → Kind
  | raised kind _ => kind
  | system .. | badDotted => .system
  | badHeader => .badHeader
  | emptyPage => .emptyPage
  | truncated .. => .truncated
  | nonAscii _ | surrogates _ => .encoding
  | numeral _ | noPort _ | unknownRegion _ | unknownLevel _ | embeddedNull => .value
  | notFinite isNaN => if isNaN then .value else .overflow
  | badArgument _ | portArgument _ => .argument
  | unpackablePort => .packing
  | limitNaN | limitNegative | sleepNegative => .value
  | limitTooLarge | portRange => .overflow
  | hostEncoding | hostNull => .type
  | badMaster _ | notOpened .. | sendAfterClose | receiveAfterClose | timedOut .. | sendFailed _ |
    receiveFailed _ => .transport
  | listenerFailed _ => .listener
  | queryCancelled => .cancelled
  | pageEmptied => .index
  | filtersLocked => .runtime
  | template why => templateKind why
  | exhausted => .exhausted

/-- The fault that caused it. -/
def cause? : Fault → Option Fault
  | badMaster cause | notOpened _ _ cause | timedOut _ cause | sendFailed cause |
    receiveFailed cause | listenerFailed cause => some cause
  | _ => none

/-- The text of a fault. -/
def message : Fault → String
  | raised _ text => text
  | system (some number) text _ => s!"[Errno {number}] {text}"
  | system none text _ => text
  | badHeader => "bad response header"
  | emptyPage => "expected at least one server in response"
  | truncated needed available =>
    s!"truncated packet: needed {needed} bytes, {available} available"
  | nonAscii run => run.message
  | surrogates run => run.message
  | numeral why => why.message
  | notFinite true => "cannot convert float NaN to integer"
  | notFinite false => "cannot convert float infinity to integer"
  | noPort address | badArgument address => "expected host:port, got " ++ Text.quoted address
  | portArgument port => s!"port out of range: {port}"
  | unknownRegion code => s!"{code} is not a valid Region"
  | unknownLevel name => "unknown log level: " ++ Text.quoted name
  | badDotted => "illegal IP address string passed to inet_aton"
  | embeddedNull => "embedded null character"
  | unpackablePort => "port does not fit into two bytes"
  | limitNaN => "Invalid value NaN (not a number)"
  | limitTooLarge => "timestamp too large to convert to C _PyTime_t"
  | limitNegative => "Timeout value out of range"
  | sleepNegative => "sleep length must be non-negative"
  | portRange => "connect(): port must be 0-65535."
  | hostEncoding => "encoding of hostname failed"
  | hostNull => "host name must not contain null character"
  | badMaster cause => "bad master address: " ++ cause.message
  | notOpened host port cause => s!"could not open socket to {host}:{port}: " ++ cause.message
  | sendAfterClose => "send on closed socket"
  | receiveAfterClose => "recv on closed socket"
  | timedOut seconds _ => s!"timed out after {seconds.fixed 1}s waiting for response"
  | sendFailed cause => "send failed: " ++ cause.message
  | receiveFailed cause => "recv failed: " ++ cause.message
  | listenerFailed cause => "page callback failed: " ++ cause.message
  | queryCancelled => "query cancelled"
  | pageEmptied => "list index out of range"
  | filtersLocked => "cannot add filters while a query is running"
  | template why => why.message
  | exhausted => "too many transitions"

/-- The number with which an operating system says that the time for an answer is over. -/
def timeoutNumber : Int := 110

/-- A failure of the operating system with a number. -/
def ofNumber (number : Int) (text : String) : Fault :=
  .system (some number) text (number = timeoutNumber)

/-- Whether a fault belongs to the family of failed queries. -/
def inFamily (f : Fault) : Bool :=
  f.kind.inFamily

/-- Whether a fault is a failure of the transport. -/
def isTransport (f : Fault) : Bool :=
  f.kind = .transport

/-- Whether a fault comes from the operating system. -/
def isSystem (f : Fault) : Bool :=
  f.kind = .system

/-- Whether a fault says that the time for an answer is over. -/
def isTimeout : Fault → Bool
  | system _ _ late => late
  | _ => false

theorem inFamily_of_isTransport {f : Fault} (h : f.isTransport = true) : f.inFamily = true := by
  simp only [isTransport, decide_eq_true_eq] at h
  simp [inFamily, h, Kind.inFamily]

end Fault

end ServerBrowser
