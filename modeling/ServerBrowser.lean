import ServerBrowser.Address
import ServerBrowser.Address.Inet
import ServerBrowser.Address.Master
import ServerBrowser.Binary64
import ServerBrowser.Binary64.Printing
import ServerBrowser.Binary64.Reading
import ServerBrowser.Browser
import ServerBrowser.CommandLine.Options
import ServerBrowser.CommandLine.Program
import ServerBrowser.CommandLine.Switch
import ServerBrowser.CommandLine.Usage
import ServerBrowser.Fault
import ServerBrowser.Filter
import ServerBrowser.Filter.Batch
import ServerBrowser.Json
import ServerBrowser.Json.Display
import ServerBrowser.Json.Reader
import ServerBrowser.Listing
import ServerBrowser.Log
import ServerBrowser.Log.Journal
import ServerBrowser.Log.Level
import ServerBrowser.Log.Registry
import ServerBrowser.Main
import ServerBrowser.Packet.Field
import ServerBrowser.Packet.Reader
import ServerBrowser.Proofs.Address
import ServerBrowser.Proofs.Brackets
import ServerBrowser.Proofs.Browser.Additions
import ServerBrowser.Proofs.Browser.Batches
import ServerBrowser.Proofs.Browser.Cancellation
import ServerBrowser.Proofs.Browser.Conservation
import ServerBrowser.Proofs.Browser.Conversations
import ServerBrowser.Proofs.Browser.Family
import ServerBrowser.Proofs.Browser.Lock
import ServerBrowser.Proofs.Browser.Requests
import ServerBrowser.Proofs.Browser.Routine
import ServerBrowser.Proofs.Browser.Sessions
import ServerBrowser.Proofs.Browser.Sockets
import ServerBrowser.Proofs.Browser.Demands
import ServerBrowser.Proofs.Cancellation
import ServerBrowser.Proofs.CommandLine.Ending
import ServerBrowser.Proofs.CommandLine.Help
import ServerBrowser.Proofs.CommandLine.Options
import ServerBrowser.Proofs.Correspondence
import ServerBrowser.Proofs.Decimal
import ServerBrowser.Proofs.Discipline
import ServerBrowser.Proofs.Filter.Batch
import ServerBrowser.Proofs.Lifted
import ServerBrowser.Proofs.Listener
import ServerBrowser.Proofs.Listing.Acts
import ServerBrowser.Proofs.Listing.Allowance
import ServerBrowser.Proofs.Listing.Cancellation
import ServerBrowser.Proofs.Listing.Ending
import ServerBrowser.Proofs.Listing.ExactlyOnce
import ServerBrowser.Proofs.Listing.Family
import ServerBrowser.Proofs.Listing.Frame
import ServerBrowser.Proofs.Listing.Gathering
import ServerBrowser.Proofs.Listing.Invariant
import ServerBrowser.Proofs.Listing.Isolation
import ServerBrowser.Proofs.Listing.LastFault
import ServerBrowser.Proofs.Listing.Losses
import ServerBrowser.Proofs.Listing.Move
import ServerBrowser.Proofs.Listing.Passage
import ServerBrowser.Proofs.Listing.Requests
import ServerBrowser.Proofs.Listing.Retries
import ServerBrowser.Proofs.Listing.Run
import ServerBrowser.Proofs.Listing.Stale
import ServerBrowser.Proofs.Listing.Trace
import ServerBrowser.Proofs.Listing.Traffic
import ServerBrowser.Proofs.Listing.Transparent
import ServerBrowser.Proofs.Listing.Turn
import ServerBrowser.Proofs.Master
import ServerBrowser.Proofs.Query
import ServerBrowser.Proofs.Query.Grammar
import ServerBrowser.Proofs.Response
import ServerBrowser.Proofs.Response.Format
import ServerBrowser.Proofs.Scenario
import ServerBrowser.Proofs.Script
import ServerBrowser.Proofs.Settings
import ServerBrowser.Proofs.Text.Fields
import ServerBrowser.Proofs.Transport.Calls
import ServerBrowser.Proofs.Transport.Datagram
import ServerBrowser.Proofs.Transport.Opening
import ServerBrowser.Proofs.Yields
import ServerBrowser.Query
import ServerBrowser.Region
import ServerBrowser.Response
import ServerBrowser.Scenario
import ServerBrowser.Scenario.Behaviour
import ServerBrowser.Scenario.Event
import ServerBrowser.Scenario.Script
import ServerBrowser.Settings
import ServerBrowser.Settings.Complaint
import ServerBrowser.Settings.Configuration
import ServerBrowser.Settings.Fields
import ServerBrowser.Settings.Number
import ServerBrowser.Settings.Sources
import ServerBrowser.Template
import ServerBrowser.Text.Ascii
import ServerBrowser.Text.Blank
import ServerBrowser.Text.CodeRange
import ServerBrowser.Text.Digit
import ServerBrowser.Text.Hex
import ServerBrowser.Text.Numeral
import ServerBrowser.Text.Printable
import ServerBrowser.Text.Quoted
import ServerBrowser.Text.Word
import ServerBrowser.Text.Wrap
import ServerBrowser.Transport
import ServerBrowser.Transport.Datagram
import ServerBrowser.Transport.Limit
import ServerBrowser.Proofs.Filter.Fewest
import ServerBrowser.Proofs.Browser.Passes
import ServerBrowser.Proofs.Listing.Budget
import ServerBrowser.Proofs.Browser.Residue
import ServerBrowser.Proofs.Text.Numeral
import ServerBrowser.Proofs.Address.HostAndPort
import ServerBrowser.Proofs.CommandLine.Default
import ServerBrowser.Proofs.Address.Record
import ServerBrowser.Proofs.Listing.Brings
import ServerBrowser.Proofs.CommandLine.Printing
import ServerBrowser.Proofs.Text.Lines
import ServerBrowser.Proofs.CommandLine.Output
import ServerBrowser.Proofs.Packet.Reader
import ServerBrowser.Proofs.Log.Journal
import ServerBrowser.Proofs.Listing.Reports
import ServerBrowser.Proofs.Settings.Merging
import ServerBrowser.Proofs.Settings.Precedence
import ServerBrowser.Proofs.Text.Dump
import ServerBrowser.Text.Surrogate
import ServerBrowser.Transport.Clock
import ServerBrowser.Proofs.Transport.Delays
import ServerBrowser.Proofs.Browser.Refusals
import ServerBrowser.Proofs.CommandLine.Running
