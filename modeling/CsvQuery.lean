import CsvQuery.Catalog.Basic
import CsvQuery.Catalog.Load
import CsvQuery.Cli.Args
import CsvQuery.Cli.Config
import CsvQuery.Cli.Error
import CsvQuery.Cli.Run
import CsvQuery.Exec.Error
import CsvQuery.Exec.Eval
import CsvQuery.Exec.Operator
import CsvQuery.Exec.Pipeline
import CsvQuery.Exec.Source
import CsvQuery.FileTree
import CsvQuery.Json.Basic
import CsvQuery.Json.Binary64
import CsvQuery.Json.Read
import CsvQuery.Log.Basic
import CsvQuery.Log.Scope
import CsvQuery.Main
import CsvQuery.Plan.Build
import CsvQuery.Plan.Classify
import CsvQuery.Plan.Error
import CsvQuery.Plan.Explain
import CsvQuery.Plan.Node
import CsvQuery.Proofs.Catalog.Load
import CsvQuery.Proofs.Except
import CsvQuery.Proofs.Pipeline.Aggregate
import CsvQuery.Proofs.Pipeline.Finish
import CsvQuery.Proofs.Pipeline.FirstOfKeys
import CsvQuery.Proofs.Pipeline.NestedLoop
import CsvQuery.Proofs.Pipeline.Operators
import CsvQuery.Proofs.Pipeline.Product
import CsvQuery.Proofs.Pipeline.RowWidth
import CsvQuery.Proofs.Pipeline.Rows
import CsvQuery.Proofs.Pipeline.SortDistinct
import CsvQuery.Proofs.Pipeline.StableSort
import CsvQuery.Proofs.Plan.Conjuncts
import CsvQuery.Proofs.Plan.Names
import CsvQuery.Proofs.Plan.Placement
import CsvQuery.Proofs.Plan.Pushdown
import CsvQuery.Proofs.Plan.Qualify
import CsvQuery.Proofs.Predicate.Truth
import CsvQuery.Proofs.Query.Grammar
import CsvQuery.Proofs.Query.JoinForm
import CsvQuery.Proofs.Query.SumText
import CsvQuery.Proofs.Query.WhereText
import CsvQuery.Proofs.Stream.Join
import CsvQuery.Proofs.Stream.Pull
import CsvQuery.Proofs.Stream.Replay
import CsvQuery.Proofs.Stream.ScanLines
import CsvQuery.Proofs.Stream.State
import CsvQuery.Proofs.Stream.Trace
import CsvQuery.Proofs.Stream.WrittenRows
import CsvQuery.Proofs.Text.Decimal
import CsvQuery.Proofs.Text.Fields
import CsvQuery.Proofs.Text.Lines
import CsvQuery.Query.Basic
import CsvQuery.Query.Column
import CsvQuery.Query.OfSql
import CsvQuery.Query.Predicate
import CsvQuery.Query.Sum
import CsvQuery.Sql.Command
import CsvQuery.Sql.DataType
import CsvQuery.Sql.Definition
import CsvQuery.Sql.Keyword
import CsvQuery.Sql.Lexer
import CsvQuery.Sql.Parser
import CsvQuery.Sql.Parser.Expr
import CsvQuery.Sql.Reader
import CsvQuery.Sql.Statement
import CsvQuery.Sql.Syntax
import CsvQuery.Sql.Token
import CsvQuery.Table.Schema
import CsvQuery.Table.Tuple
import CsvQuery.Text.Alphabetic
import CsvQuery.Text.Blank
import CsvQuery.Text.Decimal
import CsvQuery.Text.GraphemeExtend
import CsvQuery.Text.Numeric
import CsvQuery.Text.Printable
import CsvQuery.Text.RangeTable
import CsvQuery.Text.Utf8
import CsvQuery.Proofs.Plan.Resolution
import CsvQuery.Proofs.Log.Line
