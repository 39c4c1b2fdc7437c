import DocExamples.CommandLine.Arguments
import DocExamples.CommandLine.Listing
import DocExamples.CommandLine.Program
import DocExamples.Config.Basic
import DocExamples.Config.Load
import DocExamples.Coverage.Record
import DocExamples.Coverage.Store
import DocExamples.Coverage.Summary
import DocExamples.Coverage.Tracefile
import DocExamples.Decimal.Layout
import DocExamples.Decimal.Read
import DocExamples.Decimal.Shortest
import DocExamples.Declaration
import DocExamples.Document.Basic
import DocExamples.Document.Json
import DocExamples.Document.Record
import DocExamples.Document.Toml
import DocExamples.Document.Yaml.Cursor
import DocExamples.Document.Yaml.Event
import DocExamples.Document.Yaml.Read
import DocExamples.Document.Yaml.Scalar
import DocExamples.Document.Yaml.Tag
import DocExamples.Document.Yaml.Token
import DocExamples.Duration
import DocExamples.Environment
import DocExamples.Example
import DocExamples.Files.Glob
import DocExamples.Files.Ignore
import DocExamples.Files.Tree
import DocExamples.Files.UserRules
import DocExamples.Path
import DocExamples.Pattern.Basic
import DocExamples.Pattern.Bracket
import DocExamples.Pattern.Escape
import DocExamples.Pattern.Form
import DocExamples.Pattern.Parse
import DocExamples.Pattern.Size
import DocExamples.Program
import DocExamples.Project.Basic
import DocExamples.Project.Description
import DocExamples.Project.Target
import DocExamples.Proofs.Config.Load
import DocExamples.Proofs.Config.Valid
import DocExamples.Proofs.Coverage.Block
import DocExamples.Proofs.Coverage.Entry
import DocExamples.Proofs.Coverage.Join
import DocExamples.Proofs.Coverage.Merge
import DocExamples.Proofs.Coverage.MergeOrder
import DocExamples.Proofs.Coverage.Number
import DocExamples.Proofs.Coverage.RecordOrder
import DocExamples.Proofs.Coverage.Records
import DocExamples.Proofs.Coverage.RoundTrip
import DocExamples.Proofs.Coverage.Store
import DocExamples.Proofs.Coverage.Tally
import DocExamples.Proofs.Declaration
import DocExamples.Proofs.Decimal.Numeral
import DocExamples.Proofs.Decimal.Whole
import DocExamples.Proofs.Document.Record
import DocExamples.Proofs.Files.Lookup
import DocExamples.Proofs.Files.Walk
import DocExamples.Proofs.Keyed
import DocExamples.Proofs.KeyedList
import DocExamples.Proofs.Path
import DocExamples.Proofs.Pattern.Match
import DocExamples.Proofs.Pattern.Nesting
import DocExamples.Proofs.Project.Naming
import DocExamples.Proofs.Project.Owner
import DocExamples.Proofs.Project.Placed
import DocExamples.Proofs.Project.Queries
import DocExamples.Proofs.Run.Calls
import DocExamples.Proofs.Run.Case
import DocExamples.Proofs.Run.Group
import DocExamples.Proofs.Run.Modes
import DocExamples.Proofs.Run.Repeated
import DocExamples.Proofs.Run.Rerun
import DocExamples.Proofs.Run.Settle
import DocExamples.Proofs.Run.Sift
import DocExamples.Proofs.Run.Summary
import DocExamples.Proofs.Run.Targets
import DocExamples.Proofs.Run.Together
import DocExamples.Proofs.Scan.Association
import DocExamples.Proofs.Scan.Column
import DocExamples.Proofs.Scan.CommentLine
import DocExamples.Proofs.Scan.CommentRun
import DocExamples.Proofs.Scan.Declared
import DocExamples.Proofs.Scan.Expected
import DocExamples.Proofs.Scan.Grammar
import DocExamples.Proofs.Scan.Nearest
import DocExamples.Proofs.Scan.Written
import DocExamples.Proofs.Session.Attached
import DocExamples.Proofs.Session.Discover
import DocExamples.Proofs.Session.Group
import DocExamples.Proofs.Session.History
import DocExamples.Proofs.Session.Ids
import DocExamples.Proofs.Session.Listing
import DocExamples.Proofs.Session.Load
import DocExamples.Proofs.Session.Refusal
import DocExamples.Proofs.Session.Renew
import DocExamples.Proofs.Session.Touched
import DocExamples.Proofs.Test.Id
import DocExamples.Proofs.Test.Lifecycle
import DocExamples.Proofs.Test.Operation
import DocExamples.Proofs.Text.CharSet
import DocExamples.Proofs.Text.Fields
import DocExamples.Proofs.Text.Lines
import DocExamples.Proofs.Text.Utf8
import DocExamples.Proofs.Tree.Attach
import DocExamples.Proofs.Tree.Below
import DocExamples.Proofs.Tree.Build
import DocExamples.Proofs.Tree.Change
import DocExamples.Proofs.Tree.Entries
import DocExamples.Proofs.Tree.First
import DocExamples.Proofs.Tree.Forest
import DocExamples.Proofs.Tree.Index
import DocExamples.Proofs.Tree.Legal
import DocExamples.Proofs.Tree.Operation
import DocExamples.Proofs.Tree.Places
import DocExamples.Proofs.Tree.Preorder
import DocExamples.Proofs.Tree.Pristine
import DocExamples.Proofs.Tree.Targets
import DocExamples.Proofs.Tree.Traversal
import DocExamples.Proofs.Unicode.Word
import DocExamples.Run.Backend
import DocExamples.Run.Compile
import DocExamples.Run.Engine
import DocExamples.Run.Filter
import DocExamples.Run.Process
import DocExamples.Run.Report
import DocExamples.Run.Scripted
import DocExamples.Scan.Attach
import DocExamples.Scan.Basic
import DocExamples.Scan.Comment
import DocExamples.Scan.ExampleBlock
import DocExamples.Scan.Heuristic
import DocExamples.Session.Basic
import DocExamples.Session.Load
import DocExamples.Session.Run
import DocExamples.Shell.Arithmetic
import DocExamples.Shell.Batch
import DocExamples.Shell.Builtin
import DocExamples.Shell.Characters
import DocExamples.Shell.Column
import DocExamples.Shell.Condition
import DocExamples.Shell.EditScript
import DocExamples.Shell.Editor
import DocExamples.Shell.Expression
import DocExamples.Shell.Field
import DocExamples.Shell.FileTool
import DocExamples.Shell.Numeral
import DocExamples.Shell.Parse
import DocExamples.Shell.Printing
import DocExamples.Shell.Programs
import DocExamples.Shell.Regex
import DocExamples.Shell.Run
import DocExamples.Shell.Selection
import DocExamples.Shell.Sequence
import DocExamples.Shell.Signal
import DocExamples.Shell.Sorting
import DocExamples.Shell.State
import DocExamples.Shell.Syntax
import DocExamples.Shell.TextTool
import DocExamples.Shell.Token
import DocExamples.Shell.Tool
import DocExamples.Shell.Wildcard
import DocExamples.Shell.Word
import DocExamples.Test.Basic
import DocExamples.Test.Case
import DocExamples.Test.Status
import DocExamples.Text.Blank
import DocExamples.Text.ByteRuns
import DocExamples.Text.CharSet
import DocExamples.Text.Lines
import DocExamples.Text.Search
import DocExamples.Text.Utf8
import DocExamples.Tree.Link
import DocExamples.Tree.Node
import DocExamples.Tree.Tests
import DocExamples.Tree.Walk
import DocExamples.Unicode.Age
import DocExamples.Unicode.Break
import DocExamples.Unicode.CaseFold
import DocExamples.Unicode.Category
import DocExamples.Unicode.NamedSet
import DocExamples.Unicode.Property
import DocExamples.Unicode.PropertyName
import DocExamples.Unicode.Script
import DocExamples.Main
