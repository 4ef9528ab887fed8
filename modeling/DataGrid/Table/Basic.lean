import DataGrid.Value

/-!
# Tables

A **`Table`** has a name, columns and rows. A **`Row`** holds its current values and, once it was
edited or deleted, the values it was loaded with (its *baseline*), together with the **`RowState`**
that says what has become of it since.

The type itself promises nothing about widths or names: a table read from a document may have rows
narrower than its columns, and two columns of one name. What the operations keep of a table built
by **`Table.create`** is a matter of theorems.
-/

namespace DataGrid

/-! ## Columns -/

/-- The type that a data source declares for a column. -/
inductive ColumnType
  | string
  | number
  | binary
  | boolean
  | other
  deriving DecidableEq, Repr, Inhabited

/-- The word for a declared type. -/
def ColumnType.label : ColumnType → String
  | .string => "string"
  | .number => "number"
  | .binary => "binary"
  | .boolean => "boolean"
  | .other => "other"

/-- A column of a table. -/
structure Column where
  name : String
  type : ColumnType
  /-- The heading before it is put into words. -/
  caption : String
  primaryKey : Bool := false
  /-- Whether a row has to have a value here before it can be saved. -/
  mandatory : Bool := false
  /-- Whether a user may edit the cells. -/
  editAllowed : Bool := true
  /-- Whether the data source computes the cells. -/
  isFunction : Bool := false
  deriving DecidableEq, Repr

namespace Column

/-- A column whose caption is its name. -/
def named (name : String) (type : ColumnType) : Column := { name, type, caption := name }

/-- The column with another caption. -/
def withCaption (c : Column) (caption : String) : Column := { c with caption }

/-- The column as part of the primary key, and so mandatory. -/
def asPrimaryKey (c : Column) : Column := { c with primaryKey := true, mandatory := true }

/-- The column as a mandatory one. -/
def asMandatory (c : Column) : Column := { c with mandatory := true }

/-- The column closed to editing. -/
def asReadOnly (c : Column) : Column := { c with editAllowed := false }

/-- The column as one that the data source computes. -/
def asFunction (c : Column) : Column := { c with isFunction := true }

/-- The column free of the constraints that a key or a mandatory column puts on a row. -/
def withoutConstraints (c : Column) : Column := { c with primaryKey := false, mandatory := false }

end Column

/-! ## Rows -/

/-- What has become of a row since it was loaded. -/
inductive RowState
  | unchanged
  | added
  | modified
  | deleted
  deriving DecidableEq, Repr, Inhabited

namespace RowState

/-- Whether the row is to be saved. -/
def isChange (s : RowState) : Bool := s != .unchanged

/-- The word for a state. -/
def label : RowState → String
  | .unchanged => "unchanged"
  | .added => "added"
  | .modified => "modified"
  | .deleted => "deleted"

end RowState

/-- A row: its state, its current values and the values before the first edit. -/
structure Row where
  state : RowState
  current : List Value
  baseline : Option (List Value)
  deriving DecidableEq, Repr

namespace Row

/-- A row as it was loaded. -/
def unchanged (values : List Value) : Row := ⟨.unchanged, values, none⟩

/-- A row that is new. -/
def added (values : List Value) : Row := ⟨.added, values, none⟩

/-- A loaded row whose values were edited. -/
def modified (baseline current : List Value) : Row := ⟨.modified, current, some baseline⟩

/-- A loaded row that is to be deleted. -/
def deleted (values : List Value) : Row := ⟨.deleted, values, some values⟩

/-- The current value in a column, unless the row is too narrow. -/
def cell? (r : Row) (column : Nat) : Option Value := r.current[column]?

/-- The value in a column before the first edit. -/
def baselineCell? (r : Row) (column : Nat) : Option Value := r.baseline.bind (·[column]?)

/-- Whether no cell of the row has anything to show. -/
def isBlank (r : Row) : Bool := r.current.all Value.isBlank

end Row

/-! ## Tables -/

/-- What a value was to be read as. -/
inductive NumberKind
  | integer
  | number
  deriving DecidableEq, Repr

/-- The word for a kind of number. -/
def NumberKind.label : NumberKind → String
  | .integer => "integer"
  | .number => "number"

/-- Why an operation on a table failed. -/
inductive TableError
  | unknownColumn (name : String)
  | duplicateColumn (name : String)
  | columnCountMismatch (expected actual : Nat)
  | rowOutOfRange (index rows : Nat)
  | rowDeleted (index : Nat)
  | conversion (column : String) (row : Nat) (value : String) (target : NumberKind)
  /-- The row is too narrow to have a cell in the column. -/
  | missingCell (row : Nat) (column : String)
  deriving DecidableEq, Repr

/-- The error in words. -/
def TableError.message : TableError → String
  | .unknownColumn name => s!"Unknown column: {name}"
  | .duplicateColumn name => s!"Duplicate column: {name}"
  | .columnCountMismatch expected actual =>
    s!"Row has {actual} values but the table has {expected} columns"
  | .rowOutOfRange index rows => s!"Row {index} is out of range ({rows} rows)"
  | .rowDeleted index => s!"Row {index} is deleted"
  | .conversion column row value target =>
    s!"Cannot convert value '{value}' in column '{column}' (row {row}) to {target.label}"
  | .missingCell row column => s!"Row {row} has no cell in column '{column}'"

/-- A table: columns, and rows with their history. -/
structure Table where
  name : String
  columns : List Column
  rows : List Row
  deriving DecidableEq, Repr

namespace Table

/-- The first name of a list that stood there before, or among the names already seen. -/
def firstRepeated (seen : List String) : List String → Option String
  | [] => none
  | n :: ns => if n ∈ seen then some n else firstRepeated (n :: seen) ns

/-- A table without rows, unless two of its columns have one name. -/
def create (name : String) (columns : List Column) : Except TableError Table :=
  match firstRepeated [] (columns.map (·.name)) with
  | some repeated => .error (.duplicateColumn repeated)
  | none => .ok { name, columns, rows := [] }

/-- The number of rows. -/
def rowCount (t : Table) : Nat := t.rows.length

/-- The number of columns. -/
def width (t : Table) : Nat := t.columns.length

/-- The first column of a name. -/
def column? (t : Table) (name : String) : Option Column := t.columns.find? (·.name == name)

/-- The place of the first column of a name. -/
def columnIndex? (t : Table) (name : String) : Option Nat :=
  t.columns.findIdx? (·.name == name)

/-- The place of a column, which has to be there. -/
def requireColumn (t : Table) (name : String) : Except TableError Nat :=
  match t.columnIndex? name with
  | some i => .ok i
  | none => .error (.unknownColumn name)

/-- The row at an index, which has to be in range. -/
def requireRow (t : Table) (index : Nat) : Except TableError Row :=
  match t.rows[index]? with
  | some r => .ok r
  | none => .error (.rowOutOfRange index t.rowCount)

/-- Whether any row is to be saved. -/
def hasChanges (t : Table) : Bool := t.rows.any (·.state.isChange)

/-- The number of rows that are to be saved. -/
def changeCount (t : Table) : Nat := t.rows.countP (·.state.isChange)

end Table

end DataGrid
