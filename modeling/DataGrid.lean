import DataGrid.Changes
import DataGrid.Table.Edit
import DataGrid.Table.Query
import DataGrid.Document.Table
import DataGrid.Json.Reader
import DataGrid.Json.Printer
import DataGrid.Settings.Format
import DataGrid.Settings.Store
import DataGrid.Proofs.Table.Steps
import DataGrid.Proofs.Table.Width
import DataGrid.Proofs.Table.Rollback
import DataGrid.Proofs.Changes.Session
import DataGrid.Proofs.Search.FilterText
import DataGrid.Proofs.Search.Conditions
import DataGrid.Proofs.Search.View
import DataGrid.Proofs.Number.PlainNumeral
import DataGrid.Proofs.Search.Numeric
import DataGrid.Proofs.Toml.Strings
import DataGrid.Proofs.Toml.Lines
import DataGrid.Proofs.Settings.RoundTrip
import DataGrid.Proofs.Table.Reachable
import DataGrid.Proofs.Changes.Restoration
import DataGrid.Proofs.Search.Order
import DataGrid.Proofs.Document.Tables
import DataGrid.Proofs.Search.Pattern
import DataGrid.Proofs.Layout.Columns
import DataGrid.Proofs.Search.TextColumn
import DataGrid.Proofs.Search.CheckBox
import DataGrid.Proofs.Search.Grammar
import DataGrid.Proofs.Search.Operators
import DataGrid.Proofs.Search.Failure
import DataGrid.Proofs.Search.TrailingWildcard
import DataGrid.Proofs.Changes.Summary
import DataGrid.Proofs.Classification.CheckBoxEdit
import DataGrid.Proofs.Search.DeclaredKind
import DataGrid.Proofs.Search.OwnText
import DataGrid.Proofs.Table.Alike
import DataGrid.Proofs.Search.Commit
import DataGrid.Proofs.Settings.Partial
import DataGrid.Proofs.Table.PickedRow
import DataGrid.Proofs.Table.Selection
import DataGrid.Proofs.Caption.Words
import DataGrid.Proofs.Caption.Repetition
import DataGrid.Proofs.Table.Maximum
import DataGrid.Proofs.Json.Storage
