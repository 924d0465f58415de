import DotPath.Calendar
import DotPath.CommandLine
import DotPath.CommandLine.Arguments
import DotPath.CommandLine.Request
import DotPath.Document
import DotPath.FilePath
import DotPath.Files
import DotPath.Folder
import DotPath.Host
import DotPath.Json.Fault
import DotPath.Json.Reader
import DotPath.Json.Writer
import DotPath.Log
import DotPath.Main
import DotPath.Number.Binary64
import DotPath.Number.Decimal
import DotPath.Number.Integer
import DotPath.Path
import DotPath.Path.Resolve
import DotPath.Path.Segment
import DotPath.Problem
import DotPath.Problem.Record
import DotPath.Proofs.CommandLine.Escape
import DotPath.Proofs.CommandLine.Lookup
import DotPath.Proofs.CommandLine.Output
import DotPath.Proofs.CommandLine.Print
import DotPath.Proofs.CommandLine.Run
import DotPath.Proofs.FilePath
import DotPath.Proofs.Folder
import DotPath.Proofs.Json.Line
import DotPath.Proofs.Json.Members
import DotPath.Proofs.Json.Numbers
import DotPath.Proofs.Json.Places
import DotPath.Proofs.Json.RoundTrip
import DotPath.Proofs.Json.Stops
import DotPath.Proofs.Json.Strings
import DotPath.Proofs.Json.Written
import DotPath.Proofs.Numeral
import DotPath.Proofs.Outcome
import DotPath.Proofs.Path.Canonical
import DotPath.Proofs.Path.Composition
import DotPath.Proofs.Path.Failures
import DotPath.Proofs.Path.FirstFailure
import DotPath.Proofs.Path.Location
import DotPath.Proofs.Path.Parse
import DotPath.Proofs.Path.Reading
import DotPath.Proofs.Path.Trail
import DotPath.Proofs.Path.Walk
import DotPath.Proofs.Record
import DotPath.Proofs.Release.Advice
import DotPath.Proofs.Release.Latest
import DotPath.Proofs.Release.Reports
import DotPath.Proofs.Release.Versions
import DotPath.Proofs.Segment.Chain
import DotPath.Proofs.Segment.Occurrence
import DotPath.Proofs.Segment.Parse
import DotPath.Proofs.Segment.Partition
import DotPath.Proofs.Segment.Scan
import DotPath.Proofs.Settings.Agreement
import DotPath.Proofs.Settings.Views
import DotPath.Proofs.Store.Agreement
import DotPath.Proofs.Store.Breaks
import DotPath.Proofs.Store.Documented
import DotPath.Proofs.Store.Encoding
import DotPath.Proofs.Store.Gate
import DotPath.Proofs.Store.Isolation
import DotPath.Proofs.Store.Memory
import DotPath.Proofs.Store.Representation
import DotPath.Proofs.Table
import DotPath.Proofs.Table.Merged
import DotPath.Proofs.Text.Encoding
import DotPath.Proofs.Text.Split
import DotPath.Proofs.Value.Keys
import DotPath.Proofs.Value.Merges
import DotPath.Proofs.Value.Parts
import DotPath.Proofs.Value.TextKeys
import DotPath.Proofs.Value.Trail
import DotPath.Proofs.Yaml.Blank
import DotPath.Proofs.Yaml.Build
import DotPath.Proofs.Yaml.Tree
import DotPath.Record
import DotPath.Release
import DotPath.Release.Report
import DotPath.Release.Schema
import DotPath.Release.Status
import DotPath.Scalar
import DotPath.Settings
import DotPath.Settings.Session
import DotPath.Store
import DotPath.Store.Load
import DotPath.Store.Session
import DotPath.Store.Source
import DotPath.Table
import DotPath.Text.Base64
import DotPath.Text.Blank
import DotPath.Text.Case
import DotPath.Text.CaseContext
import DotPath.Text.CharSet
import DotPath.Text.CodePoint
import DotPath.Text.DecodeFault
import DotPath.Text.Digit
import DotPath.Text.EncodeFault
import DotPath.Text.Encoding
import DotPath.Text.Lines
import DotPath.Text.Pattern
import DotPath.Text.Printable
import DotPath.Text.Quoted
import DotPath.Text.Split
import DotPath.Text.Surrogate
import DotPath.Text.Utf16
import DotPath.Text.Utf32
import DotPath.Text.Utf8
import DotPath.Value
import DotPath.Value.Display
import DotPath.Value.Entry
import DotPath.Value.Keys
import DotPath.Value.Knot
import DotPath.Value.Reference
import DotPath.Value.Showing
import DotPath.Yaml.Cursor
import DotPath.Yaml.Directive
import DotPath.Yaml.Document
import DotPath.Yaml.Merge
import DotPath.Yaml.Node
import DotPath.Yaml.Object
import DotPath.Yaml.Scalar
import DotPath.Yaml.ScalarValue
import DotPath.Yaml.Tag
import DotPath.Yaml.Timestamp
import DotPath.Yaml.Token
