import DataGrid.Caption
import DataGrid.Classification

/-!
# Layout of a grid

What a grid needs to know to show a table, for each column (**`ColumnLayout`**) and as a whole
(**`TableLayout`**), without regard to any toolkit. **`Table.highlight`** reads the background
colour of a row from the column that holds it.
-/

namespace DataGrid

open Text

/-- How a table is laid out. -/
structure LayoutOptions where
  /-- Columns that are there but not shown. -/
  hiddenColumns : List String := ["HIGHLIGHT_COLOR"]
  /-- The column that holds the background colour of each row. -/
  highlightColumn : String := "HIGHLIGHT_COLOR"
  /-- The format in which numbers are shown. -/
  numericFormat : String := "N2"
  deriving DecidableEq, Repr

/-- What shows a cell. -/
inductive Widget
  | textBox
  | checkBox (tokens : BooleanTokens)
  | image
  deriving DecidableEq, Repr

/-- What shows the cells of a column of some kind. -/
def Widget.ofKind (tokens : BooleanTokens) : Kind → Widget
  | .binary => .image
  | .booleanEnum => .checkBox tokens
  | .string | .numeric | .other => .textBox

/-- The layout of one column. -/
structure ColumnLayout where
  name : String
  caption : String
  kind : Kind
  widget : Widget
  visible : Bool
  editable : Bool
  isFunction : Bool
  alignRight : Bool
  numberFormat : Option String
  deriving DecidableEq, Repr

/-- The layout of a column of some kind. -/
def Column.layout (c : Column) (kind : Kind) (tokens : BooleanTokens) (options : LayoutOptions) :
    ColumnLayout where
  name := c.name
  caption := Caption.display c.caption
  kind := kind
  widget := .ofKind tokens kind
  visible := !options.hiddenColumns.contains c.name
  editable := c.editAllowed && !c.isFunction
  isFunction := c.isFunction
  alignRight := kind == .numeric
  numberFormat := if kind = .numeric then some options.numericFormat else none

/-- The layout of a table. -/
structure TableLayout where
  columns : List ColumnLayout
  /-- Whether there is more than one row to search among. -/
  searchEnabled : Bool
  deriving DecidableEq, Repr

namespace TableLayout

/-- The layout of a table whose columns are classified first. Columns and kinds are paired in
order. -/
def build (t : Table) (classifier : ClassifierOptions) (options : LayoutOptions) :
    TableLayout where
  columns := t.columns.zipWith (fun c kind => c.layout kind classifier.tokens options)
    (classify t classifier).values
  searchEnabled := t.rowCount > 1

/-- The layout of the first column of a name. -/
def column? (l : TableLayout) (name : String) : Option ColumnLayout :=
  l.columns.find? (·.name == name)

/-- The kinds of the columns, in order. -/
def kinds (l : TableLayout) : ColumnKinds := .ofList (l.columns.map fun c => (c.name, c.kind))

/-- The columns that are shown. -/
def visibleColumns (l : TableLayout) : List ColumnLayout := l.columns.filter (·.visible)

end TableLayout

/-- The background colour of a row, if the table has a column for it and the row a colour in it. -/
def Table.highlight (t : Table) (row : Nat) (options : LayoutOptions) : Option String := do
  let column ← t.columnIndex? options.highlightColumn
  let r ← t.rows[row]?
  let v ← r.cell? column
  if isBlankText v.text then none else some (trimmed v.text)

end DataGrid
