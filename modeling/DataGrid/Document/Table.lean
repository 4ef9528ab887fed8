import DataGrid.Document.Basic
import DataGrid.Table.Basic

/-!
# Stored tables

The documents that stand for cells, columns, rows and tables. A stored table is taken as it is:
neither the names of its columns nor the widths of its rows are checked.
-/

namespace DataGrid

open Document

namespace Value

/-- The document of a cell: the name of its form, with its contents if it has any. -/
def toDocument : Value → Document
  | .null => .text "Null"
  | .boolean b => .record [("Bool", .boolean b)]
  | .integer n => .record [("Int", .integer n.toInt)]
  | .float x => .record [("Float", ofNumber x)]
  | .decimal t => .record [("Decimal", .text t)]
  | .string t => .record [("String", .text t)]
  | .bytes data => .record [("Bytes", .sequence (data.map fun b => .integer b.toNat))]

/-- A document that is a byte. -/
def byte? : Document → Option UInt8
  | .integer (.ofNat n) => if n < 256 then some (UInt8.ofNat n) else none
  | _ => none

/-- The cell of a form with some contents. -/
def ofContents? (form : String) (contents : Document) : Option Value :=
  match form with
  | "Null" => if Format.json.isNothing contents then some .null else none
  | "Bool" => contents.boolean?.map .boolean
  | "Int" => contents.integer64?.map .integer
  | "Float" => contents.number?.map .float
  | "Decimal" => contents.text?.map .decimal
  | "String" => contents.text?.map .string
  | "Bytes" => (contents.list? byte?).map .bytes
  | _ => none

/-- The cell that a document stands for. -/
def ofDocument? : Document → Option Value
  | .text "Null" => some .null
  | .record [(form, contents)] => ofContents? form contents
  | _ => none

end Value

namespace ColumnType

/-- All declared types. -/
def all : List ColumnType := [.string, .number, .binary, .boolean, .other]

/-- The document of a declared type. -/
def toDocument (t : ColumnType) : Document := .text t.label

/-- The declared type that a document stands for. -/
def ofDocument? (d : Document) : Option ColumnType := d.case? .json all label

end ColumnType

namespace Column

/-- The document of a column. -/
def toDocument (c : Column) : Document :=
  .record [("name", .text c.name), ("data_type", c.type.toDocument), ("caption", .text c.caption),
    ("primary_key", .boolean c.primaryKey), ("mandatory", .boolean c.mandatory),
    ("edit_allowed", .boolean c.editAllowed), ("is_function", .boolean c.isFunction)]

/-- The column that a document stands for. -/
def ofDocument? (d : Document) : Option Column := do
  let ms ← d.members? .json ["name", "data_type", "caption", "primary_key", "mandatory",
    "edit_allowed", "is_function"]
  return {
    name := ← required text? ms "name"
    type := ← required ColumnType.ofDocument? ms "data_type"
    caption := ← required text? ms "caption"
    primaryKey := ← defaulted boolean? ms "primary_key" false
    mandatory := ← defaulted boolean? ms "mandatory" false
    editAllowed := ← defaulted boolean? ms "edit_allowed" true
    isFunction := ← defaulted boolean? ms "is_function" false }

end Column

namespace RowState

/-- All states of a row. -/
def all : List RowState := [.unchanged, .added, .modified, .deleted]

/-- The name under which a state is stored. -/
def storedName : RowState → String
  | .unchanged => "Unchanged"
  | .added => "Added"
  | .modified => "Modified"
  | .deleted => "Deleted"

/-- The document of a state. -/
def toDocument (s : RowState) : Document := .text s.storedName

/-- The state that a document stands for. -/
def ofDocument? (d : Document) : Option RowState := d.case? .json all storedName

end RowState

namespace Row

/-- The document of a sequence of values. -/
def valuesDocument (values : List Value) : Document := .sequence (values.map Value.toDocument)

/-- The document of a row. -/
def toDocument (r : Row) : Document :=
  .record [("state", r.state.toDocument), ("current", valuesDocument r.current),
    ("original", r.baseline.elim .null valuesDocument)]

/-- The fields of a row. -/
def fields : List String := ["state", "current", "original"]

/-- The row that a document stands for. The values before the first edit may be left out of a
record, but not of a sequence. -/
def ofDocument? (d : Document) : Option Row := do
  let ms ← d.members? .json fields
  if d matches .sequence _ ∧ ms.length < fields.length then none
  return {
    state := ← required RowState.ofDocument? ms "state"
    current := ← required (list? Value.ofDocument?) ms "current"
    baseline := ← optional (list? Value.ofDocument?) ms "original" }

end Row

namespace Table

/-- The document of a table. -/
def toDocument (t : Table) : Document :=
  .record [("name", .text t.name), ("columns", .sequence (t.columns.map Column.toDocument)),
    ("rows", .sequence (t.rows.map Row.toDocument))]

/-- The table that a document stands for. -/
def ofDocument? (d : Document) : Option Table := do
  let ms ← d.members? .json ["name", "columns", "rows"]
  return {
    name := ← required text? ms "name"
    columns := ← required (list? Column.ofDocument?) ms "columns"
    rows := ← required (list? Row.ofDocument?) ms "rows" }

end Table

end DataGrid
