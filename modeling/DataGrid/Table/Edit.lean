import DataGrid.Table.Basic

/-!
# Editing a table

Every change that a user or a loader makes to a table is an **`Edit`**. `Edit.apply` carries one
out or refuses it with a `TableError`; a refused edit leaves the table as it was, which
**`Table.run`** says for a whole series of edits.

What an edit does to the row it touches is said row by row (`Row.edit`, `Row.markDeleted`,
`Row.restore`, `Row.accept`, `Row.reject`): the first edit of a loaded row keeps its values as the
baseline, to which a later rejection goes back.
-/

namespace DataGrid

namespace Row

/-- The row with a new value in a column. -/
def edit (r : Row) (column : Nat) (v : Value) : Row :=
  match r.state with
  | .unchanged => ⟨.modified, r.current.set column v, some r.current⟩
  | _ => { r with current := r.current.set column v }

/-- The row marked for deletion, with a baseline to come back to. -/
def markDeleted (r : Row) : Row :=
  { r with state := .deleted, baseline := some (r.baseline.getD r.current) }

/-- Whether the current values equal the baseline, one by one. -/
def equalsBaseline (r : Row) : Bool :=
  match r.baseline with
  | some values => values.isEqv r.current Value.equals
  | none => false

/-- A deleted row brought back: as an unchanged row if it equals its baseline, else as a modified
one. Other rows stay as they are. -/
def restore (r : Row) : Row :=
  if r.state = .deleted then
    if r.equalsBaseline then { r with state := .unchanged, baseline := none }
    else { r with state := .modified }
  else r

/-- The row with its current values for good. -/
def accept (r : Row) : Row := ⟨.unchanged, r.current, none⟩

/-- The row back at its baseline. -/
def reject (r : Row) : Row := ⟨.unchanged, r.baseline.getD r.current, none⟩

end Row

namespace Table

/-- Refuses a number of values that is not the number of columns. -/
def checkWidth (t : Table) (actual : Nat) : Except TableError Unit :=
  if actual = t.width then .ok () else .error (.columnCountMismatch t.width actual)

/-- The table with a row replaced. -/
def setRow (t : Table) (index : Nat) (r : Row) : Table := { t with rows := t.rows.set index r }

/-- The table under another name. -/
def setName (t : Table) (name : String) : Table := { t with name }

/-- The table with a row appended, in whatever state it comes. -/
def pushRow (t : Table) (r : Row) : Except TableError Table := do
  t.checkWidth r.current.length
  match r.baseline with
  | some values => t.checkWidth values.length
  | none => pure ()
  return { t with rows := t.rows ++ [r] }

/-- The table with other rows. The current values of every row have to fit the columns. -/
def setRows (t : Table) (rows : List Row) : Except TableError Table := do
  rows.forM fun r => t.checkWidth r.current.length
  return { t with rows }

/-- The table with a row appended as it was loaded. -/
def loadRow (t : Table) (values : List Value) : Except TableError Table :=
  t.pushRow (.unchanged values)

/-- The table with a new row appended. -/
def addRow (t : Table) (values : List Value) : Except TableError Table := t.pushRow (.added values)

/-- The table with a new row of nulls appended. -/
def addBlankRow (t : Table) : Table :=
  { t with rows := t.rows ++ [.added (List.replicate t.width .null)] }

/-- The table with the value of a cell changed. Deleted rows are closed to editing. -/
def setValue (t : Table) (row : Nat) (column : String) (v : Value) : Except TableError Table := do
  let i ← t.requireColumn column
  let r ← t.requireRow row
  if r.state = .deleted then throw (.rowDeleted row)
  else if i < r.current.length then return t.setRow row (r.edit i v)
  else throw (.missingCell row column)

/-- The table with a row deleted: a new row goes at once, a loaded one is marked. -/
def deleteRow (t : Table) (row : Nat) : Except TableError Table := do
  let r ← t.requireRow row
  match r.state with
  | .added => return { t with rows := t.rows.eraseIdx row }
  | .deleted => return t
  | .unchanged | .modified => return t.setRow row r.markDeleted

/-- The table with the deletion of a row undone. -/
def restoreRow (t : Table) (row : Nat) : Except TableError Table := do
  let r ← t.requireRow row
  return t.setRow row r.restore

/-- The table with every change for good: deleted rows are gone, all others are unchanged. -/
def acceptChanges (t : Table) : Table :=
  { t with rows := (t.rows.filter (·.state ≠ .deleted)).map Row.accept }

/-- The table with every change taken back: new rows are gone, all others are as loaded. -/
def rejectChanges (t : Table) : Table :=
  { t with rows := (t.rows.filter (·.state ≠ .added)).map Row.reject }

/-- The table with no key and no mandatory column. -/
def clearConstraints (t : Table) : Table :=
  { t with columns := t.columns.map Column.withoutConstraints }

/-- The rows of a list that a test on index and row accepts, counting from an index. -/
def keepRows (keep : Nat → Row → Bool) (index : Nat) : List Row → List Row
  | [] => []
  | r :: rs =>
    if keep index r then r :: keepRows keep (index + 1) rs else keepRows keep (index + 1) rs

/-- A table of the same columns with those rows that a test on index and row accepts, in order and
with their history. -/
def project (t : Table) (name : String) (keep : Nat → Row → Bool) : Table :=
  { t with name, rows := keepRows keep 0 t.rows }

end Table

/-- A change to a table. -/
inductive Edit
  | setName (name : String)
  | pushRow (row : Row)
  | setRows (rows : List Row)
  | loadRow (values : List Value)
  | addRow (values : List Value)
  | addBlankRow
  | setValue (row : Nat) (column : String) (v : Value)
  | deleteRow (row : Nat)
  | restoreRow (row : Nat)
  | acceptChanges
  | rejectChanges
  | clearConstraints
  | project (name : String) (keep : Nat → Row → Bool)

namespace Edit

/-- The table after an edit, unless the edit is refused. -/
def apply (t : Table) : Edit → Except TableError Table
  | .setName name => .ok (t.setName name)
  | .pushRow row => t.pushRow row
  | .setRows rows => t.setRows rows
  | .loadRow values => t.loadRow values
  | .addRow values => t.addRow values
  | .addBlankRow => .ok t.addBlankRow
  | .setValue row column v => t.setValue row column v
  | .deleteRow row => t.deleteRow row
  | .restoreRow row => t.restoreRow row
  | .acceptChanges => .ok t.acceptChanges
  | .rejectChanges => .ok t.rejectChanges
  | .clearConstraints => .ok t.clearConstraints
  | .project name keep => .ok (t.project name keep)

/-- The index of the row that an edit appends to a table. -/
def newRow? (t : Table) : Edit → Option Nat
  | .pushRow _ | .loadRow _ | .addRow _ | .addBlankRow => some t.rowCount
  | _ => none

end Edit

namespace Table

/-- The table after an edit; a refused edit changes nothing. -/
def attempt (t : Table) (e : Edit) : Table :=
  match e.apply t with
  | .ok t' => t'
  | .error _ => t

/-- The table after a series of edits. -/
def run (t : Table) (edits : List Edit) : Table := edits.foldl attempt t

end Table

end DataGrid
