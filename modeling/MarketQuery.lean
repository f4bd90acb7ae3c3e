import MarketQuery.Logging
import MarketQuery.Main
import MarketQuery.Proofs.Traversal
import MarketQuery.Proofs.Json.Records
import MarketQuery.Proofs.Provider.Contents
import MarketQuery.Proofs.Provider.Reply
import MarketQuery.Proofs.Provider.Paging
import MarketQuery.Proofs.Provider.Completeness
import MarketQuery.Proofs.Provider.Shortfall
import MarketQuery.Proofs.Csv.Content
import MarketQuery.Proofs.FileSystem.Places
import MarketQuery.Proofs.FileSystem.Writing
import MarketQuery.Proofs.Csv.Saving
import MarketQuery.Proofs.Csv.Faithful
import MarketQuery.Proofs.Query.Steps
import MarketQuery.Proofs.Query.Outputs
import MarketQuery.Proofs.Query.Failures
import MarketQuery.Proofs.Binding.Parameter
import MarketQuery.Proofs.Binding.Outcome
import MarketQuery.Proofs.Binding.Exact
import MarketQuery.Proofs.Number.Integers
import MarketQuery.Proofs.Invocation.Items
import MarketQuery.Proofs.Invocation.Parsing
import MarketQuery.Proofs.Binding.AsTyped
import MarketQuery.Proofs.Rendering.Layout
import MarketQuery.Proofs.Table.Operations
import MarketQuery.Proofs.Program.Stages
import MarketQuery.Proofs.Program.StandardOutput
import MarketQuery.Proofs.Program.FirstFailure
import MarketQuery.Proofs.Catalog.Tables
import MarketQuery.Proofs.Catalog.Failures
import MarketQuery.Proofs.Config.Items
import MarketQuery.Proofs.Config.Layers
import MarketQuery.Proofs.Config.Variables
import MarketQuery.Proofs.Config.Priority
import MarketQuery.Proofs.Arguments.Insertions
import MarketQuery.Proofs.Text.ByteOrder
import MarketQuery.Proofs.Registry.Dispatch
import MarketQuery.Proofs.Number.Nearest
import MarketQuery.Proofs.Number.Denoted
import MarketQuery.Proofs.Number.Exact
import MarketQuery.Proofs.Rendering.NumericColumn
import MarketQuery.Proofs.Number.Sizes
import MarketQuery.Proofs.Number.NearestSize
import MarketQuery.Proofs.Number.Closest
import MarketQuery.Proofs.Number.ShortestDecimal
import MarketQuery.Proofs.Number.Whole
import MarketQuery.Proofs.Text.Width
import MarketQuery.Proofs.Rendering.Truncation
import MarketQuery.Proofs.Rendering.Grid
import MarketQuery.Proofs.Rendering.IntegerCells
import MarketQuery.Proofs.Rendering.RowOrder
import MarketQuery.Proofs.Text.Trim
import MarketQuery.Proofs.Number.Places
import MarketQuery.Proofs.Date.Calendar
import MarketQuery.Proofs.Date.Reading
import MarketQuery.Proofs.Date.Spelling
import MarketQuery.Proofs.Date.Normal
import MarketQuery.Proofs.Number.Numerals
import MarketQuery.Proofs.Config.Texts
import MarketQuery.Proofs.Value.Coercion
import MarketQuery.Proofs.Cell.NumberText
import MarketQuery.Proofs.Text.Split
import MarketQuery.Proofs.Catalog.BarRows
import MarketQuery.Proofs.Json.Fields
import MarketQuery.Proofs.Catalog.RecordRows
import MarketQuery.Proofs.Catalog.HistoryCalls
import MarketQuery.Proofs.Invocation.RowSelection
import MarketQuery.Proofs.Number.NearestDecimal
import MarketQuery.Proofs.Number.ReadBack
import MarketQuery.Proofs.Csv.NumberFields
import MarketQuery.Proofs.Value.Readers
import MarketQuery.Proofs.Rendering.Gaps
import MarketQuery.Proofs.Text.Ascii
import MarketQuery.Proofs.Cell.Characters
import MarketQuery.Proofs.Rendering.LineBreaks
import MarketQuery.Proofs.Rendering.CellWidth
import MarketQuery.Proofs.FileSystem.Ancestors
import MarketQuery.Proofs.Csv.Frame
import MarketQuery.Proofs.Text.Quoting
import MarketQuery.Proofs.Value.Literal
import MarketQuery.Proofs.Query.Echo
import MarketQuery.Proofs.Symbol.Identifiers
import MarketQuery.Proofs.Json.NumberTokens
import MarketQuery.Proofs.Json.Scaling
import MarketQuery.Proofs.Json.QuotedNumbers
