import SchemaDiagram.Bytes.Base64
import SchemaDiagram.Bytes.Hex
import SchemaDiagram.Bytes.Percent
import SchemaDiagram.Bytes.Sha256
import SchemaDiagram.Bytes.Utf8
import SchemaDiagram.Character.Alphabetic
import SchemaDiagram.Character.Basic
import SchemaDiagram.Character.CaseMap
import SchemaDiagram.Character.Cased
import SchemaDiagram.Character.CodeSet
import SchemaDiagram.Character.Columns
import SchemaDiagram.Character.Emoji
import SchemaDiagram.Character.Mark
import SchemaDiagram.Character.Number
import SchemaDiagram.CommandLine.Command
import SchemaDiagram.CommandLine.Option
import SchemaDiagram.Decimal.Literal
import SchemaDiagram.Decimal.Nearest
import SchemaDiagram.Decimal.Shortest
import SchemaDiagram.Decimal.Text
import SchemaDiagram.Diagram.Canvas
import SchemaDiagram.Diagram.Edge
import SchemaDiagram.Diagram.Handle
import SchemaDiagram.Diagram.Layout
import SchemaDiagram.Diagram.Node
import SchemaDiagram.Diagram.Route
import SchemaDiagram.Diagram.View
import SchemaDiagram.Document
import SchemaDiagram.Import
import SchemaDiagram.Json.Basic
import SchemaDiagram.Json.Number
import SchemaDiagram.Json.Reader
import SchemaDiagram.Json.Record
import SchemaDiagram.Json.Token
import SchemaDiagram.Main
import SchemaDiagram.Project
import SchemaDiagram.Sample
import SchemaDiagram.Schema.Basic
import SchemaDiagram.Schema.Block
import SchemaDiagram.Schema.ColumnLine
import SchemaDiagram.Schema.Edit
import SchemaDiagram.Schema.Json
import SchemaDiagram.Schema.Parse
import SchemaDiagram.Schema.Print
import SchemaDiagram.Schema.Reference
import SchemaDiagram.Session
import SchemaDiagram.Settings
import SchemaDiagram.Settings.Read
import SchemaDiagram.ShareLink
import SchemaDiagram.Sql.ColumnDefinition
import SchemaDiagram.Sql.Comment
import SchemaDiagram.Sql.Dialect
import SchemaDiagram.Sql.ForeignKey
import SchemaDiagram.Sql.Parse
import SchemaDiagram.Sql.Print
import SchemaDiagram.Sql.Reader
import SchemaDiagram.Sql.Type
import SchemaDiagram.Text.Blank
import SchemaDiagram.Text.ByteCursor
import SchemaDiagram.Text.Case
import SchemaDiagram.Text.Columns
import SchemaDiagram.Text.Cursor
import SchemaDiagram.Text.Scan
import SchemaDiagram.Time.Calendar
import SchemaDiagram.Time.Instant
import SchemaDiagram.Time.Read
import SchemaDiagram.Toml.Item
import SchemaDiagram.Toml.Read
import SchemaDiagram.Toml.Scalar
import SchemaDiagram.Toml.Text
import SchemaDiagram.Workspace
import SchemaDiagram.Proofs.Bytes.Base64
import SchemaDiagram.Proofs.Bytes.Utf8
import SchemaDiagram.Proofs.Diagram.Canvas
import SchemaDiagram.Proofs.Diagram.Handle
import SchemaDiagram.Proofs.Diagram.KeepFirst
import SchemaDiagram.Proofs.Diagram.Layout
import SchemaDiagram.Proofs.Diagram.Lifecycle
import SchemaDiagram.Proofs.Diagram.Reconciliation
import SchemaDiagram.Proofs.Diagram.Seed
import SchemaDiagram.Proofs.Document
import SchemaDiagram.Proofs.EdgeId
import SchemaDiagram.Proofs.Import
import SchemaDiagram.Proofs.Json.Number
import SchemaDiagram.Proofs.Json.Reader
import SchemaDiagram.Proofs.Json.Record
import SchemaDiagram.Proofs.Json.Token
import SchemaDiagram.Proofs.Json.Write
import SchemaDiagram.Proofs.Schema.Append
import SchemaDiagram.Proofs.Schema.Basic
import SchemaDiagram.Proofs.Schema.Block
import SchemaDiagram.Proofs.Schema.BlockRemoval
import SchemaDiagram.Proofs.Schema.BodyLine
import SchemaDiagram.Proofs.Schema.Canonical
import SchemaDiagram.Proofs.Schema.ColumnLine
import SchemaDiagram.Proofs.Schema.ExactRemoval
import SchemaDiagram.Proofs.Schema.ForeignKey
import SchemaDiagram.Proofs.Schema.Grammar
import SchemaDiagram.Proofs.Schema.Json
import SchemaDiagram.Proofs.Schema.Layout
import SchemaDiagram.Proofs.Schema.LayoutCheck
import SchemaDiagram.Proofs.Schema.LineBreak
import SchemaDiagram.Proofs.Schema.LineRemoval
import SchemaDiagram.Proofs.Schema.Names
import SchemaDiagram.Proofs.Schema.Outline
import SchemaDiagram.Proofs.Schema.ReadColumn
import SchemaDiagram.Proofs.Schema.Reference
import SchemaDiagram.Proofs.Schema.ReferenceLine
import SchemaDiagram.Proofs.Schema.Removable
import SchemaDiagram.Proofs.Schema.RemoveTable
import SchemaDiagram.Proofs.Schema.RoundTrip
import SchemaDiagram.Proofs.Schema.Setting
import SchemaDiagram.Proofs.Schema.SettingOrder
import SchemaDiagram.Proofs.ShareLink
import SchemaDiagram.Proofs.Sql.ColumnDefinition
import SchemaDiagram.Proofs.Sql.Comment
import SchemaDiagram.Proofs.Sql.CommentRemoval
import SchemaDiagram.Proofs.Sql.Concatenation
import SchemaDiagram.Proofs.Sql.Confined
import SchemaDiagram.Proofs.Sql.Default
import SchemaDiagram.Proofs.Sql.Draft
import SchemaDiagram.Proofs.Sql.ForeignKey
import SchemaDiagram.Proofs.Sql.Literal
import SchemaDiagram.Proofs.Sql.LiteralScript
import SchemaDiagram.Proofs.Sql.Names
import SchemaDiagram.Proofs.Sql.Outline
import SchemaDiagram.Proofs.Sql.Reader
import SchemaDiagram.Proofs.Sql.RoundTrip
import SchemaDiagram.Proofs.Sql.Script
import SchemaDiagram.Proofs.Sql.Spelling
import SchemaDiagram.Proofs.Sql.Statement
import SchemaDiagram.Proofs.Text.Alike
import SchemaDiagram.Proofs.Text.Blank
import SchemaDiagram.Proofs.Text.Boundary
import SchemaDiagram.Proofs.Text.ByteCursor
import SchemaDiagram.Proofs.Text.Case
import SchemaDiagram.Proofs.Text.Character
import SchemaDiagram.Proofs.Text.Cursor
import SchemaDiagram.Proofs.Text.Cut
import SchemaDiagram.Proofs.Text.Leftmost
import SchemaDiagram.Proofs.Text.LowerCase
import SchemaDiagram.Proofs.Text.Outside
import SchemaDiagram.Proofs.Text.Scan
import SchemaDiagram.Proofs.Text.Search
import SchemaDiagram.Proofs.Text.Standing
import SchemaDiagram.Proofs.TextImport
import SchemaDiagram.Proofs.Workspace
import SchemaDiagram.Proofs.Workspace.Identity
import SchemaDiagram.Proofs.Workspace.JsonExport
import SchemaDiagram.Proofs.Workspace.Propagation
import SchemaDiagram.Proofs.Workspace.Refusal
import SchemaDiagram.Proofs.Workspace.Restore
import SchemaDiagram.Proofs.Workspace.SqlExport
