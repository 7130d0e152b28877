import RangeTail.Text.Blank
import RangeTail.Text.Cut
import RangeTail.Text.Utf8
import RangeTail.Text.Decimal
import RangeTail.ByteRange
import RangeTail.ContentRange
import RangeTail.Fault
import RangeTail.Chunk
import RangeTail.TextView
import RangeTail.Snapshot
import RangeTail.Snapshot.Merge
import RangeTail.Directive
import RangeTail.Cursor
import RangeTail.Config
import RangeTail.Binary64
import RangeTail.Toml.Value
import RangeTail.Toml.Lexical
import RangeTail.Toml.Document
import RangeTail.Config.Document
import RangeTail.Version
import RangeTail.Text.CodeRanges
import RangeTail.Text.Assigned
import RangeTail.Text.Mark
import RangeTail.Text.CombiningClass
import RangeTail.Text.Composed
import RangeTail.Text.Alphanumeric
import RangeTail.Text.Visible
import RangeTail.Text.Quoted
import RangeTail.LogFormat
import RangeTail.Json.Value
import RangeTail.Json.Reader
import RangeTail.Index.Record
import RangeTail.Index.Listing
import RangeTail.Index.Trail
import RangeTail.Url.Percent
import RangeTail.Url.Punycode
import RangeTail.Url.Name.Folding
import RangeTail.Url.Name.Direction
import RangeTail.Url.Name.Joining
import RangeTail.Url.Name
import RangeTail.Url.Host
import RangeTail.Url.Basic
import RangeTail.Url.Reader
import RangeTail.Url.Form
import RangeTail.QueryStore
import RangeTail.MemoryLog
import RangeTail.MemorySource
import RangeTail.Index.Latest
import RangeTail.Scroll.Channel
import RangeTail.Scroll.View
import RangeTail.Scroll.Pin
import RangeTail.Fetch
import RangeTail.Tail
import RangeTail.Tail.Event
import RangeTail.Tail.Description
import RangeTail.Session
import RangeTail.Actor
import RangeTail.Http.Response
import RangeTail.Http.FileServer
import RangeTail.Http.Request
import RangeTail.CommandLine.Arguments
import RangeTail.CommandLine.Complaint
import RangeTail.CommandLine.Printing
import RangeTail.CommandLine.Usage
import RangeTail.CommandLine.Run
import RangeTail.Http.Wire
import RangeTail.Main
import RangeTail.Proofs.Log.Window
import RangeTail.Proofs.Text.Lossy
import RangeTail.Proofs.Url.Form
import RangeTail.Proofs.Text.Decimal
import RangeTail.Proofs.Text.Padding
import RangeTail.Proofs.Store.Values
import RangeTail.Proofs.Store.Address
import RangeTail.Proofs.Scroll.Pin
import RangeTail.Proofs.Text.Utf8
import RangeTail.Proofs.Text.Decoding
import RangeTail.Proofs.Text.Boundary
import RangeTail.Proofs.Text.View
import RangeTail.Proofs.Text.Completion
import RangeTail.Proofs.Text.Extent
import RangeTail.Proofs.Text.Front
import RangeTail.Proofs.Snapshot.Stop
import RangeTail.Proofs.Snapshot.Bytes
import RangeTail.Proofs.Snapshot.Invariant
import RangeTail.Proofs.Snapshot.Confluence
import RangeTail.Proofs.Snapshot.Request
import RangeTail.Proofs.Snapshot.Overflow
import RangeTail.Proofs.Tail.Run
import RangeTail.Proofs.Tail.Snapshot
import RangeTail.Proofs.Tail.Text
import RangeTail.Proofs.Tail.Order
import RangeTail.Proofs.Tail.Pin
import RangeTail.Proofs.Tail.Dispatch
import RangeTail.Proofs.Tail.Overflow
import RangeTail.Proofs.Tail.Account
import RangeTail.Proofs.Tail.Queue
import RangeTail.Proofs.Tail.Failure
import RangeTail.Proofs.Tail.Outcome
import RangeTail.Proofs.Output.Printing
import RangeTail.Proofs.Output.Extension
import RangeTail.Proofs.Output.Growth
import RangeTail.Proofs.Output.Replacement
import RangeTail.Proofs.Snapshot.Growth
import RangeTail.Proofs.Session.Run
import RangeTail.Proofs.Session.Answer
import RangeTail.Proofs.Session.Errand
import RangeTail.Proofs.Session.Window
import RangeTail.Proofs.Session.Widening
import RangeTail.Proofs.Session.Truncation
import RangeTail.Proofs.Session.Loss
import RangeTail.Proofs.Session.End
import RangeTail.Proofs.Session.Calm
import RangeTail.Proofs.Session.Following
import RangeTail.Proofs.Actor.Run
import RangeTail.Proofs.Actor.Teardown
import RangeTail.Proofs.Tail.Release
import RangeTail.Proofs.Tail.Diary
import RangeTail.Proofs.Session.Reload
import RangeTail.Proofs.Session.Backwards
import RangeTail.Proofs.Session.LiveEnd
import RangeTail.Proofs.Tail.Request
import RangeTail.Proofs.Http.ContentRange
import RangeTail.Proofs.Http.Grammar
import RangeTail.Proofs.Http.RoundTrip
import RangeTail.Proofs.Http.FileServer
import RangeTail.Proofs.Index.Roles
import RangeTail.Proofs.Index.Opening
import RangeTail.Proofs.Index.Closing
import RangeTail.Proofs.Index.Latest
import RangeTail.Proofs.Index.Trails
import RangeTail.Proofs.Index.Attribution
import RangeTail.Proofs.Index.Appending
import RangeTail.Proofs.Index.Sequence
import RangeTail.Proofs.Json.Bounds
import RangeTail.Proofs.Index.Shape
import RangeTail.Proofs.Index.Line
import RangeTail.Proofs.Index.Window
import RangeTail.Proofs.CommandLine.Watch
import RangeTail.Proofs.CommandLine.FirstAnswer
import RangeTail.Proofs.CommandLine.OneShot
