import Converge.CommandLine
import Converge.CommandLine.FilePath
import Converge.CommandLine.Invocation
import Converge.CommandLine.Options
import Converge.CommandLine.Report
import Converge.CommandLine.Settings
import Converge.CommandLine.World
import Converge.Comparison
import Converge.Decimal.Binary64
import Converge.Decimal.Layout
import Converge.Decimal.Numeral
import Converge.Decimal.Shortest
import Converge.Device
import Converge.Dialect
import Converge.Facts
import Converge.Failure
import Converge.Json.Node
import Converge.Json.Printer
import Converge.Json.Reader
import Converge.LineDiff
import Converge.LineDiff.Script
import Converge.LineDiff.Tidy
import Converge.Main
import Converge.Pattern
import Converge.Pattern.ClassName
import Converge.Pattern.Grammar
import Converge.Pattern.Program
import Converge.Pattern.Shape
import Converge.Pattern.Size
import Converge.Pattern.Term
import Converge.Placeholder
import Converge.Proofs.BlankDevice
import Converge.Proofs.Candidates
import Converge.Proofs.CapturedKeys
import Converge.Proofs.CapturedText
import Converge.Proofs.CheckMode
import Converge.Proofs.CleanCommands
import Converge.Proofs.Clearing
import Converge.Proofs.Decimal.Numerals
import Converge.Proofs.DecisionTable
import Converge.Proofs.DeviceCalls
import Converge.Proofs.Directories
import Converge.Proofs.FactsData
import Converge.Proofs.GrowingFacts
import Converge.Proofs.KeyOrder
import Converge.Proofs.LineMeaning
import Converge.Proofs.LineEnds
import Converge.Proofs.LiteralResults
import Converge.Proofs.MirroredCommands
import Converge.Proofs.OfflineFacts
import Converge.Proofs.PartialResults
import Converge.Proofs.PushFile
import Converge.Proofs.Reached
import Converge.Proofs.Reapplied
import Converge.Proofs.Refusals
import Converge.Proofs.Removal
import Converge.Proofs.Reordering
import Converge.Proofs.RereadCommands
import Converge.Proofs.RereadDocuments
import Converge.Proofs.RuleTables
import Converge.Proofs.Sections
import Converge.Proofs.Template.Extent
import Converge.Proofs.Template.Lexeme
import Converge.Proofs.Template.Lexing
import Converge.Proofs.Template.OperatorExtent
import Converge.Proofs.Template.PassedData
import Converge.Proofs.Template.Placeholders
import Converge.Proofs.Text.CleanLine
import Converge.Proofs.Text.Splitting
import Converge.Proofs.Tree.Cleaning
import Converge.Proofs.Tree.Data
import Converge.Proofs.Tree.DottedPaths
import Converge.Proofs.Tree.ExactNumbers
import Converge.Proofs.Tree.KeyOrder
import Converge.Proofs.Tree.Layers
import Converge.Proofs.Tree.Merging
import Converge.Proofs.Tree.Normal
import Converge.Proofs.Tree.Parts
import Converge.Proofs.Tree.Places
import Converge.Proofs.Tree.Sameness
import Converge.Proofs.Tree.SortedFields
import Converge.Record
import Converge.Rendering
import Converge.Resource
import Converge.Rule.Basic
import Converge.Rule.Document
import Converge.Rule.Index
import Converge.Rule.Table
import Converge.Skeleton
import Converge.State
import Converge.Template.Arguments
import Converge.Template.Evaluation
import Converge.Template.Expr
import Converge.Template.Fault
import Converge.Template.Filters
import Converge.Template.Filters.Format
import Converge.Template.Filters.Numbers
import Converge.Template.Filters.Sequences
import Converge.Template.Filters.Texts
import Converge.Template.Functions
import Converge.Template.Grammar
import Converge.Template.Names
import Converge.Template.Operators
import Converge.Template.Scope
import Converge.Template.Tests
import Converge.Template.Token
import Converge.Template.Value
import Converge.Template.Value.Data
import Converge.Template.Value.Order
import Converge.Template.Value.Printed
import Converge.Text.Age
import Converge.Text.Blank
import Converge.Text.ByteRange
import Converge.Text.Casing
import Converge.Text.Category
import Converge.Text.CodeSet
import Converge.Text.CodeTable
import Converge.Text.Decoding
import Converge.Text.Find
import Converge.Text.Lines
import Converge.Text.Listed
import Converge.Text.Property
import Converge.Text.Property.Table
import Converge.Text.Script
import Converge.Text.Script.Extensions
import Converge.Text.Segment
import Converge.Toml.Item
import Converge.Toml.Quoted
import Converge.Toml.Reader
import Converge.Toml.Scalar
import Converge.Tree.Basic
import Converge.Tree.Empties
import Converge.Tree.Fields
import Converge.Tree.Merge
import Converge.Tree.Numeric
import Converge.Tree.Path
