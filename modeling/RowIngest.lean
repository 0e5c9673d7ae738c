import RowIngest.Check.Checked
import RowIngest.Check.Issue
import RowIngest.Check.Scalar
import RowIngest.Config
import RowIngest.Fault
import RowIngest.Fault.Statement
import RowIngest.Hostname.Context
import RowIngest.Hostname.Direction
import RowIngest.Hostname.Label
import RowIngest.Hostname.Name
import RowIngest.Hostname.Permitted
import RowIngest.Hostname.Punycode
import RowIngest.Http.Body
import RowIngest.Http.Client
import RowIngest.Http.Failure
import RowIngest.Http.HostAddress
import RowIngest.Http.Message
import RowIngest.Http.Origin
import RowIngest.Http.Percent
import RowIngest.Http.Route
import RowIngest.Http.Server
import RowIngest.Http.Service
import RowIngest.Http.Target
import RowIngest.Json.Error
import RowIngest.Json.Finite
import RowIngest.Json.Reader
import RowIngest.Log
import RowIngest.Log.Output
import RowIngest.Mapping.Document
import RowIngest.Mapping.Field
import RowIngest.Mapping.File
import RowIngest.Mapping.Index
import RowIngest.Mapping.Placement
import RowIngest.Mapping.Query
import RowIngest.Mapping.Shape
import RowIngest.Mapping.Shared
import RowIngest.Mapping.Value
import RowIngest.Number.Binary64
import RowIngest.Number.Shortest
import RowIngest.Path
import RowIngest.Proofs.Accord
import RowIngest.Proofs.Accounting
import RowIngest.Proofs.Alongside
import RowIngest.Proofs.Applying
import RowIngest.Proofs.Attempts
import RowIngest.Proofs.Attending
import RowIngest.Proofs.Batching
import RowIngest.Proofs.Building
import RowIngest.Proofs.Clashing
import RowIngest.Proofs.Companions
import RowIngest.Proofs.Configuration
import RowIngest.Proofs.Conversation
import RowIngest.Proofs.Counting
import RowIngest.Proofs.Decoding
import RowIngest.Proofs.Delivery
import RowIngest.Proofs.Displaying
import RowIngest.Proofs.Dotted
import RowIngest.Proofs.Driving
import RowIngest.Proofs.Ending
import RowIngest.Proofs.Execution
import RowIngest.Proofs.Faulting
import RowIngest.Proofs.Finding
import RowIngest.Proofs.Giving
import RowIngest.Proofs.Handling
import RowIngest.Proofs.Hesitating
import RowIngest.Proofs.History
import RowIngest.Proofs.Holding
import RowIngest.Proofs.Ledger
import RowIngest.Proofs.Matching
import RowIngest.Proofs.Mirroring
import RowIngest.Proofs.Modifying
import RowIngest.Proofs.Opening
import RowIngest.Proofs.Ordering
import RowIngest.Proofs.Parsing
import RowIngest.Proofs.Placing
import RowIngest.Proofs.Protocol
import RowIngest.Proofs.Provenance
import RowIngest.Proofs.Querying
import RowIngest.Proofs.Reckoning
import RowIngest.Proofs.Recording
import RowIngest.Proofs.Refusing
import RowIngest.Proofs.Rehearsing
import RowIngest.Proofs.Rejecting
import RowIngest.Proofs.Reordering
import RowIngest.Proofs.Reporting
import RowIngest.Proofs.Running
import RowIngest.Proofs.Serving
import RowIngest.Proofs.Sparing
import RowIngest.Proofs.Stepping
import RowIngest.Proofs.Surfacing
import RowIngest.Proofs.Transparency
import RowIngest.Proofs.Trying
import RowIngest.Proofs.Turns
import RowIngest.Proofs.Updating
import RowIngest.Proofs.Validity
import RowIngest.Proofs.Yielding
import RowIngest.Rehearsal.Interruption
import RowIngest.Rehearsal.ScriptedDriver
import RowIngest.Rehearsal.ScriptedStore
import RowIngest.Run.Batch
import RowIngest.Run.Clock
import RowIngest.Run.Indexing
import RowIngest.Run.Load
import RowIngest.Run.Loader
import RowIngest.Run.Retry
import RowIngest.Run.Service
import RowIngest.Run.Upsert
import RowIngest.Settings
import RowIngest.Settings.CommandLine
import RowIngest.Settings.Dotenv
import RowIngest.Settings.Files
import RowIngest.Settings.Options
import RowIngest.Settings.Reading
import RowIngest.Startup
import RowIngest.Store.Basic
import RowIngest.Store.Client
import RowIngest.Store.Connection
import RowIngest.Text.Blank
import RowIngest.Text.CharacterName
import RowIngest.Text.Charset
import RowIngest.Text.Charset.Chinese
import RowIngest.Text.Charset.ChineseTable
import RowIngest.Text.Charset.Decoding
import RowIngest.Text.Charset.Designated
import RowIngest.Text.Charset.Escaped
import RowIngest.Text.Charset.Grid
import RowIngest.Text.Charset.HostText
import RowIngest.Text.Charset.Japanese
import RowIngest.Text.Charset.JapaneseTable
import RowIngest.Text.Charset.Korean
import RowIngest.Text.Charset.KoreanTable
import RowIngest.Text.Charset.Name
import RowIngest.Text.Charset.Replaced
import RowIngest.Text.Charset.SingleByte
import RowIngest.Text.Charset.TaiwaneseTable
import RowIngest.Text.Charset.Unicode
import RowIngest.Text.Composed
import RowIngest.Text.Digit
import RowIngest.Text.Identifier
import RowIngest.Text.Lines
import RowIngest.Text.Lower
import RowIngest.Text.Mark
import RowIngest.Text.Printed
import RowIngest.Text.Quoted
import RowIngest.Text.Ranges
import RowIngest.Text.Upper
import RowIngest.Text.Utf8
import RowIngest.Value
import RowIngest.Value.Shown
