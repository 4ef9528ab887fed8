import DataGrid.Keyed
import DataGrid.Table.Basic

/-!
# Questions to a table

Values by row and column, the largest whole number of a column, the text that selected rows have in
common, and a row as a record by caption.
-/

namespace DataGrid.Table

/-- The cell of a row in a column that the table has. -/
def cellOf (r : Row) (row column : Nat) (name : String) : Except TableError Value :=
  match r.cell? column with
  | some v => .ok v
  | none => .error (.missingCell row name)

/-- The current value of a cell. -/
def value (t : Table) (row : Nat) (column : String) : Except TableError Value := do
  let i ← t.requireColumn column
  let r ← t.requireRow row
  cellOf r row i column

/-- The larger of two whole numbers, or the one that is there. -/
def larger (best : Option Int64) (n : Int64) : Int64 :=
  match best with
  | some m => if m.toInt < n.toInt then n else m
  | none => n

/-- The largest whole number in a column of some rows, given the largest one so far and the index
of the first row. -/
def maxIntFrom (name : String) (column : Nat) :
    Nat → Option Int64 → List Row → Except TableError (Option Int64)
  | _, best, [] => .ok best
  | row, best, r :: rs => do
    let v ← cellOf r row column name
    if v.isNull then maxIntFrom name column (row + 1) best rs
    else
      match v.asInteger? with
      | some n => maxIntFrom name column (row + 1) (some (larger best n)) rs
      | none => .error (.conversion name row v.text .integer)

/-- The largest whole number in a column, where nulls do not count. Any other cell that is not a
whole number is an error. -/
def maxInt (t : Table) (column : String) : Except TableError (Option Int64) := do
  let i ← t.requireColumn column
  maxIntFrom column i 0 none t.rows

/-- The text that a column has in all of the selected rows, given the text found so far. The search
ends at the first row that differs. -/
def commonTextFrom (t : Table) (name : String) (column : Nat) :
    Option String → List Nat → Except TableError (Option String)
  | common, [] => .ok common
  | common, row :: rows => do
    let r ← t.requireRow row
    let v ← cellOf r row column name
    match common with
    | none => commonTextFrom t name column (some v.text) rows
    | some text =>
      if v.text = text then commonTextFrom t name column (some text) rows else .ok none

/-- The text that a column has in all of the selected rows: none if they differ, or if no row is
selected. -/
def commonValue (t : Table) (rows : List Nat) (column : String) :
    Except TableError (Option String) := do
  let i ← t.requireColumn column
  commonTextFrom t column i none rows

/-- The current values of a row by the captions of their columns. -/
def rowByCaption (t : Table) (row : Nat) : Except TableError (Keyed Value) := do
  let r ← t.requireRow row
  return .ofList ((t.columns.map (·.caption)).zip r.current)

end DataGrid.Table
