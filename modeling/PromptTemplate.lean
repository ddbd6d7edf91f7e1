import PromptTemplate.Catalog
import PromptTemplate.CommandLine
import PromptTemplate.Data
import PromptTemplate.Diagnostic
import PromptTemplate.Digest
import PromptTemplate.FieldText
import PromptTemplate.File.Atomic
import PromptTemplate.File.Fault
import PromptTemplate.File.Path
import PromptTemplate.File.Tree
import PromptTemplate.Json.Encoding
import PromptTemplate.Json.Printer
import PromptTemplate.Json.Reader
import PromptTemplate.Main
import PromptTemplate.Number.Binary64
import PromptTemplate.Number.Numeral
import PromptTemplate.Prompt
import PromptTemplate.Proofs.Catalog
import PromptTemplate.Proofs.Catalog.Completion
import PromptTemplate.Proofs.Catalog.Filter
import PromptTemplate.Proofs.CommandLine.Resolve
import PromptTemplate.Proofs.CommandLine.Run
import PromptTemplate.Proofs.FieldText.Blocks
import PromptTemplate.Proofs.FieldText.Renderings
import PromptTemplate.Proofs.File.Atomic
import PromptTemplate.Proofs.File.AtomicRun
import PromptTemplate.Proofs.File.Directories
import PromptTemplate.Proofs.File.Document
import PromptTemplate.Proofs.File.Message
import PromptTemplate.Proofs.File.Path
import PromptTemplate.Proofs.File.Temporary
import PromptTemplate.Proofs.File.Tree
import PromptTemplate.Proofs.Json.LongInteger
import PromptTemplate.Proofs.Json.Parts
import PromptTemplate.Proofs.Json.Roundtrip
import PromptTemplate.Proofs.Json.Sendable
import PromptTemplate.Proofs.Json.Sent
import PromptTemplate.Proofs.Number.Rounding
import PromptTemplate.Proofs.RecentTokens.Failure
import PromptTemplate.Proofs.RecentTokens.Recency
import PromptTemplate.Proofs.RecentTokens.Storage
import PromptTemplate.Proofs.Resolution.Dependence
import PromptTemplate.Proofs.Resolution.Filing
import PromptTemplate.Proofs.Resolution.Growth
import PromptTemplate.Proofs.Resolution.ReadBack
import PromptTemplate.Proofs.Resolution.Reordering
import PromptTemplate.Proofs.Resolution.WholeSnapshot
import PromptTemplate.Proofs.Schema
import PromptTemplate.Proofs.Service.Agreement
import PromptTemplate.Proofs.Service.Answers
import PromptTemplate.Proofs.Service.Course
import PromptTemplate.Proofs.Service.Status
import PromptTemplate.Proofs.Service.Trace
import PromptTemplate.Proofs.Similarity.Ranking
import PromptTemplate.Proofs.Similarity.Score
import PromptTemplate.Proofs.Snapshot.Lookup
import PromptTemplate.Proofs.Snapshot.Reader
import PromptTemplate.Proofs.Snapshot.Slug
import PromptTemplate.Proofs.Snapshot.Writing
import PromptTemplate.Proofs.Sort
import PromptTemplate.Proofs.Table
import PromptTemplate.Proofs.Template.Canonical
import PromptTemplate.Proofs.Template.Escape
import PromptTemplate.Proofs.Template.Filling
import PromptTemplate.Proofs.Template.Grammar
import PromptTemplate.Proofs.Template.Insertion
import PromptTemplate.Proofs.Template.Keys
import PromptTemplate.Proofs.Template.Lines
import PromptTemplate.Proofs.Template.Literal
import PromptTemplate.Proofs.Template.Malformed
import PromptTemplate.Proofs.Template.Occurrences
import PromptTemplate.Proofs.Template.Protected
import PromptTemplate.Proofs.Template.Restore
import PromptTemplate.Proofs.Template.Scan
import PromptTemplate.Proofs.Template.Shapes
import PromptTemplate.Proofs.Template.Splicing
import PromptTemplate.Proofs.Template.Strict
import PromptTemplate.Proofs.Text.Cut
import PromptTemplate.Proofs.Text.Join
import PromptTemplate.Proofs.Text.Scalar
import PromptTemplate.Proofs.Text.Utf8
import PromptTemplate.Proofs.Validation.Agreement
import PromptTemplate.Proofs.Validation.EscapedToken
import PromptTemplate.Proofs.Validation.Suggestion
import PromptTemplate.RecentTokens
import PromptTemplate.Report
import PromptTemplate.Resolution
import PromptTemplate.Schema
import PromptTemplate.Service.Body
import PromptTemplate.Service.Event
import PromptTemplate.Service.Reply
import PromptTemplate.Settings
import PromptTemplate.Similarity
import PromptTemplate.Snapshot.Basic
import PromptTemplate.Snapshot.File
import PromptTemplate.Snapshot.Reader
import PromptTemplate.Snapshot.Slug
import PromptTemplate.Table
import PromptTemplate.Template.Escape
import PromptTemplate.Template.File
import PromptTemplate.Template.SyntaxCheck
import PromptTemplate.Template.Token
import PromptTemplate.Text.Basic
import PromptTemplate.Text.Blank
import PromptTemplate.Text.Case
import PromptTemplate.Text.CaseTable
import PromptTemplate.Text.Cut
import PromptTemplate.Text.DigitTable
import PromptTemplate.Text.Lines
import PromptTemplate.Text.PrintTable
import PromptTemplate.Text.Quoted
import PromptTemplate.Text.Utf8
import PromptTemplate.Text.Wide
import PromptTemplate.Yaml.Cursor
import PromptTemplate.Yaml.Fault
import PromptTemplate.Yaml.Graph
import PromptTemplate.Yaml.Lexeme
import PromptTemplate.Yaml.Merge
import PromptTemplate.Yaml.Reader
import PromptTemplate.Yaml.Scalar
import PromptTemplate.Yaml.Survey
import PromptTemplate.Yaml.Token
import PromptTemplate.Yaml.TokenStream
import PromptTemplate.Yaml.Value
