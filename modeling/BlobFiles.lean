import BlobFiles.BlobRecords
import BlobFiles.CommandLine.Arguments
import BlobFiles.CommandLine.Run
import BlobFiles.Decimal.Binary64
import BlobFiles.Decimal.Shortest
import BlobFiles.Endpoint.Address
import BlobFiles.Endpoint.Domain
import BlobFiles.Endpoint.DomainTable
import BlobFiles.Endpoint.Label
import BlobFiles.Endpoint.Punycode
import BlobFiles.Endpoint.WebUrl
import BlobFiles.Error
import BlobFiles.FileSystem
import BlobFiles.Glob.Path
import BlobFiles.Glob.Segment
import BlobFiles.Handle.Reader
import BlobFiles.Handle.Request
import BlobFiles.Handle.Stream
import BlobFiles.Handle.Window
import BlobFiles.Json.Basic
import BlobFiles.Json.Decode
import BlobFiles.Json.Reader
import BlobFiles.Json.Writer
import BlobFiles.Main
import BlobFiles.OpenFlags
import BlobFiles.Proofs.FileSystem.Paging
import BlobFiles.Proofs.FileSystem.ReadBack
import BlobFiles.Proofs.Glob.AnyDepth
import BlobFiles.Proofs.Glob.Backtracking
import BlobFiles.Proofs.Glob.Blocks
import BlobFiles.Proofs.Glob.Escape
import BlobFiles.Proofs.Glob.EscapedClass
import BlobFiles.Proofs.Glob.LastStar
import BlobFiles.Proofs.Glob.ListingStart
import BlobFiles.Proofs.Glob.Literal
import BlobFiles.Proofs.Glob.Token
import BlobFiles.Proofs.Handle.CheckedFile
import BlobFiles.Proofs.Handle.CheckedLoop
import BlobFiles.Proofs.Handle.Cursor
import BlobFiles.Proofs.Handle.Delivery
import BlobFiles.Proofs.Handle.DownloadLog
import BlobFiles.Proofs.Handle.FailedRead
import BlobFiles.Proofs.Handle.NoFault
import BlobFiles.Proofs.Handle.PlainFile
import BlobFiles.Proofs.Handle.Plan
import BlobFiles.Proofs.Handle.PositionalRead
import BlobFiles.Proofs.Handle.RangeCheck
import BlobFiles.Proofs.Handle.Reachable
import BlobFiles.Proofs.Handle.SingleDownload
import BlobFiles.Proofs.Handle.Soundness
import BlobFiles.Proofs.Handle.Streaming
import BlobFiles.Proofs.Json.Numeral
import BlobFiles.Proofs.Json.Record
import BlobFiles.Proofs.Json.ScalarText
import BlobFiles.Proofs.Json.StoredForms
import BlobFiles.Proofs.Results
import BlobFiles.Proofs.Session.Atomic
import BlobFiles.Proofs.Session.Commands
import BlobFiles.Proofs.Session.Effect
import BlobFiles.Proofs.Session.Endpoint
import BlobFiles.Proofs.Session.ExactSharing
import BlobFiles.Proofs.Session.History
import BlobFiles.Proofs.Session.Notices
import BlobFiles.Proofs.Session.Record
import BlobFiles.Proofs.Session.Registered
import BlobFiles.Proofs.Session.Route
import BlobFiles.Proofs.Session.Sharable
import BlobFiles.Proofs.Settings.ConnectionString
import BlobFiles.Proofs.Settings.Lookup
import BlobFiles.Proofs.Settings.TextValue
import BlobFiles.Proofs.Storage.DerivedEndpoint
import BlobFiles.Proofs.Storage.ExactListing
import BlobFiles.Proofs.Storage.MemoryListing
import BlobFiles.Proofs.Storage.NormalForm
import BlobFiles.Proofs.Storage.Priority
import BlobFiles.Proofs.Storage.Resolve
import BlobFiles.Proofs.Storage.Secrecy
import BlobFiles.Proofs.Text.Digits
import BlobFiles.Proofs.Time.Calendar
import BlobFiles.Proofs.Time.Scan
import BlobFiles.Proofs.Time.Stamp
import BlobFiles.Proofs.Time.WrittenInstant
import BlobFiles.Proofs.Url.Parts
import BlobFiles.Proofs.Url.RoundTrip
import BlobFiles.ReadOptions
import BlobFiles.Session.Command
import BlobFiles.Session.Contexts
import BlobFiles.Session.Host
import BlobFiles.Session.Step
import BlobFiles.Settings.Basic
import BlobFiles.Settings.ConnectionString
import BlobFiles.Settings.File
import BlobFiles.Storage.Basic
import BlobFiles.Storage.Memory
import BlobFiles.Storage.Remote
import BlobFiles.Storage.Scripted
import BlobFiles.Storage.ServiceFailure
import BlobFiles.Text.Assigned
import BlobFiles.Text.Blank
import BlobFiles.Text.CombiningClass
import BlobFiles.Text.Composed
import BlobFiles.Text.Composite
import BlobFiles.Text.Direction
import BlobFiles.Text.Joining
import BlobFiles.Text.Mark
import BlobFiles.Text.Printable
import BlobFiles.Text.Quoted
import BlobFiles.Text.Range
import BlobFiles.Text.Split
import BlobFiles.Time.Calendar
import BlobFiles.Time.Rfc3339
import BlobFiles.Url
