import EmojiLint.Assoc
import EmojiLint.Check
import EmojiLint.CommandLine.Frame
import EmojiLint.CommandLine.Options
import EmojiLint.CommandLine.Report
import EmojiLint.CommandLine.Run
import EmojiLint.CommandLine.Watch
import EmojiLint.Debounce
import EmojiLint.Debounce.Registry
import EmojiLint.Diagnostic
import EmojiLint.Disk.Basic
import EmojiLint.Disk.Replace
import EmojiLint.Edit
import EmojiLint.Emoji.Occurrence
import EmojiLint.Emoji.Properties
import EmojiLint.Emoji.Sequence
import EmojiLint.Exclude.Glob
import EmojiLint.Exclude.Matcher
import EmojiLint.Ignore.Basic
import EmojiLint.Ignore.Markers
import EmojiLint.Ignore.Ranges
import EmojiLint.Ignore.Scan
import EmojiLint.Json.Numeral
import EmojiLint.Json.Parse
import EmojiLint.Json.Print
import EmojiLint.Json.Quote
import EmojiLint.Json.Read
import EmojiLint.Json.Scalar
import EmojiLint.Json.Skip
import EmojiLint.Json.Value
import EmojiLint.Main
import EmojiLint.Path.Basic
import EmojiLint.Path.Name
import EmojiLint.Project.Basic
import EmojiLint.Project.Discovery
import EmojiLint.Project.File
import EmojiLint.Proofs.Ignore.Canonical
import EmojiLint.Proofs.Ignore.Ranges
import EmojiLint.Proofs.Search
import EmojiLint.Proofs.Text.Ascii
import EmojiLint.Proofs.Text.Lossy
import EmojiLint.Search
import EmojiLint.Server.Basic
import EmojiLint.Server.Decode
import EmojiLint.Server.Encode
import EmojiLint.Server.Form
import EmojiLint.Server.Form.Capabilities
import EmojiLint.Server.Form.Document
import EmojiLint.Server.Form.Questions
import EmojiLint.Server.Message
import EmojiLint.Server.Wire
import EmojiLint.Settings.Basic
import EmojiLint.Settings.Editor
import EmojiLint.Settings.Exclude
import EmojiLint.Settings.File
import EmojiLint.Settings.Print
import EmojiLint.Settings.Read
import EmojiLint.Severity
import EmojiLint.Text.Blank
import EmojiLint.Text.Columns
import EmojiLint.Text.Fields
import EmojiLint.Text.Lines
import EmojiLint.Text.Lossy
import EmojiLint.Text.Span
import EmojiLint.Text.Unseen
import EmojiLint.Text.Utf8
import EmojiLint.Uri.Address
import EmojiLint.Uri.Basic
import EmojiLint.Uri.Domain.Basic
import EmojiLint.Uri.Domain.Composition
import EmojiLint.Uri.Domain.Direction
import EmojiLint.Uri.Domain.Joining
import EmojiLint.Uri.Domain.Mapping
import EmojiLint.Uri.Domain.Mapping.Table
import EmojiLint.Uri.Domain.Marks
import EmojiLint.Uri.Domain.Punycode
import EmojiLint.Uri.Host
import EmojiLint.Uri.Percent
import EmojiLint.Uri.Read
import EmojiLint.Workspace
import EmojiLint.Proofs.Ignore.Automaton
import EmojiLint.Proofs.Ignore.Opening
import EmojiLint.Proofs.Ignore.Steps
import EmojiLint.Proofs.Ignore.Refinement
import EmojiLint.Proofs.Ignore.Regions
import EmojiLint.Proofs.Emoji.Words
import EmojiLint.Proofs.Emoji.Grammar
import EmojiLint.Proofs.Emoji.Pattern
import EmojiLint.Proofs.Emoji.Tokenization
import EmojiLint.Proofs.Check
import EmojiLint.Proofs.Debounce
import EmojiLint.Proofs.Server.Session
import EmojiLint.Proofs.Server.Publication
import EmojiLint.Proofs.Server.PassedOver
import EmojiLint.Proofs.Server.Scans
import EmojiLint.Proofs.Server.Arrival
import EmojiLint.Proofs.Emoji.Append
import EmojiLint.Proofs.Ignore.Append
import EmojiLint.Proofs.Chunks
import EmojiLint.Proofs.Removal
import EmojiLint.Proofs.Text.Lines
import EmojiLint.Proofs.Server.Edits
import EmojiLint.Proofs.Exclude.Glob
import EmojiLint.Proofs.Path.Segments
import EmojiLint.Proofs.Exclude.Matcher
import EmojiLint.Proofs.Json.Quote
import EmojiLint.Proofs.Settings.Print
import EmojiLint.Proofs.Disk.Follow
import EmojiLint.Proofs.Disk.Write
import EmojiLint.Proofs.Text.Blank
import EmojiLint.Proofs.Settings.File
import EmojiLint.Proofs.Settings.Exclude
import EmojiLint.Proofs.Settings.Add
import EmojiLint.Proofs.Exclude.Below
import EmojiLint.Proofs.Exclude.Cover
import EmojiLint.Proofs.Path.Child
import EmojiLint.Proofs.Path.Seen
import EmojiLint.Proofs.Disk.Depth
import EmojiLint.Proofs.Project.Walk
import EmojiLint.Proofs.Workspace.Exclude
import EmojiLint.Proofs.Project.Exclusion
import EmojiLint.Proofs.Disk.Alike
import EmojiLint.Proofs.Disk.Replace
import EmojiLint.Proofs.Project.Report
import EmojiLint.Proofs.Project.Clean
import EmojiLint.Proofs.Debounce.Time
import EmojiLint.Proofs.Debounce.Moments
import EmojiLint.Proofs.Debounce.Course
import EmojiLint.Proofs.Debounce.Task
import EmojiLint.Proofs.Debounce.Registry
import EmojiLint.Proofs.Debounce.Agreement
import EmojiLint.Proofs.Server.Burst
import EmojiLint.Proofs.Server.Agree
import EmojiLint.Proofs.Server.Calls
import EmojiLint.Proofs.Server.Interference
import EmojiLint.Proofs.Path.Descend
import EmojiLint.Proofs.Disk.Tree
import EmojiLint.Proofs.Project.Discover
import EmojiLint.Proofs.Project.Spelling
import EmojiLint.Proofs.Server.Files
import EmojiLint.Proofs.Settings.Editor
import EmojiLint.Proofs.Ignore.Lookahead
import EmojiLint.Proofs.Ignore.Bounds
import EmojiLint.Proofs.Ignore.Hash
import EmojiLint.Proofs.Ignore.Rounds
import EmojiLint.Proofs.Exclude.Regex
import EmojiLint.Proofs.Exclude.Pattern
import EmojiLint.Proofs.Edit
import EmojiLint.Proofs.Emoji.Leftover
import EmojiLint.Proofs.Text.Positions
import EmojiLint.Proofs.Text.Offsets
import EmojiLint.Proofs.Path.Below
import EmojiLint.Proofs.Settings.Additions
import EmojiLint.Proofs.Exclude.Target
import EmojiLint.Proofs.Diagnostic
import EmojiLint.Proofs.Workspace.QuickFixes
import EmojiLint.Proofs.CommandLine.Grouping
import EmojiLint.Proofs.Project.Check
import EmojiLint.Proofs.Path.Join
import EmojiLint.Proofs.CommandLine.Reread
import EmojiLint.Proofs.Path.Parent
import EmojiLint.Proofs.Disk.Slot
import EmojiLint.Proofs.Disk.Moments
import EmojiLint.Proofs.Project.Atomic
