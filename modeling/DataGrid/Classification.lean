import DataGrid.Keyed
import DataGrid.Kind

/-!
# Classification of columns

**`classify`** gives every column of a table its kind. A column that is declared to hold texts is
looked through: if its cells are the literals of a check box, as far as the **`Evidence`** that is
asked for goes, it is a check-box column. Cells that are null say nothing, and neither do rows too
narrow to have a cell; without any other cell the declared type decides.
-/

namespace DataGrid

/-- How many of the texts in a column have to be literals for a check-box column. -/
inductive Evidence
  /-- All of them, and there has to be one. -/
  | allLiterals
  /-- At least one. -/
  | anyLiteral
  deriving DecidableEq, Repr

/-- How columns are classified. -/
structure ClassifierOptions where
  tokens : BooleanTokens := {}
  evidence : Evidence := .allLiterals
  deriving DecidableEq, Repr

/-- The kinds of columns by name. -/
abbrev ColumnKinds := Keyed Kind

namespace Table

/-- The texts of the cells in a column that are not null. -/
def columnTexts (t : Table) (column : Nat) : List String :=
  ((t.rows.filterMap (·.cell? column)).filter (!·.isNull)).map Value.text

end Table

/-- Whether texts are evidence for a check-box column. -/
def Evidence.accepts (e : Evidence) (tokens : BooleanTokens) (texts : List String) : Bool :=
  match e with
  | .allLiterals => !texts.isEmpty && texts.all tokens.isLiteral
  | .anyLiteral => texts.any tokens.isLiteral

/-- The kind of the column at an index. -/
def classifyColumn (t : Table) (options : ClassifierOptions) (index : Nat) (column : Column) :
    Kind :=
  if column.type = .string ∧ options.evidence.accepts options.tokens (t.columnTexts index) = true
  then .booleanEnum
  else .ofDeclared column.type

/-- The kinds of all columns, in order. -/
def classify (t : Table) (options : ClassifierOptions) : ColumnKinds :=
  .ofList (t.columns.zipIdx.map fun (column, index) =>
    (column.name, classifyColumn t options index column))

end DataGrid
