import DataGrid.Search.Term

/-!
# Filters

A **`Filter`** is a list of comparisons that all have to hold; the empty filter lets every row
pass. It carries the wildcard that its patterns were written with, so that they are read the same
way when rows are tested.

**`Filter.text`** writes a filter in the row-filter language. A column name stands between
backquotes with a backslash before each backquote and each backslash in it, an operand between
single quotes with every single quote in it doubled, and ` AND ` stands between two comparisons.
-/

namespace DataGrid

/-- A column, an operator and an operand. -/
structure Comparison where
  column : String
  operator : Operator
  operand : String
  deriving DecidableEq, Repr

/-- Comparisons that all have to hold. -/
structure Filter where
  comparisons : List Comparison := []
  wildcard : Char := Term.defaultWildcard
  deriving DecidableEq, Repr

/-- A column name between backquotes. -/
def quotedName (name : List Char) : List Char :=
  '`' :: (name.flatMap fun c => if c = '\\' ∨ c = '`' then ['\\', c] else [c]) ++ ['`']

/-- An operand between single quotes. -/
def quotedOperand (operand : List Char) : List Char :=
  '\'' :: (operand.flatMap fun c => if c = '\'' then [c, c] else [c]) ++ ['\'']

namespace Comparison

/-- A comparison in the row-filter language. -/
def chars (c : Comparison) : List Char :=
  quotedName c.column.toList ++ ' ' :: c.operator.symbol.toList ++
    ' ' :: quotedOperand c.operand.toList

/-- A comparison in the row-filter language. -/
def text (c : Comparison) : String := String.ofList c.chars

end Comparison

namespace Filter

/-- A filter in the row-filter language. -/
def chars (f : Filter) : List Char := " AND ".toList.intercalate (f.comparisons.map (·.chars))

/-- A filter in the row-filter language. -/
def text (f : Filter) : String := String.ofList f.chars

/-- The filter with one more comparison. -/
def push (f : Filter) (c : Comparison) : Filter := { f with comparisons := f.comparisons ++ [c] }

/-- The filter with another wildcard in its patterns. -/
def withWildcard (f : Filter) (wildcard : Char) : Filter := { f with wildcard }

/-- Names without repetitions, in the order of their first occurrence. -/
def distinct (names : List String) : List String :=
  names.foldl (fun seen n => if n ∈ seen then seen else seen ++ [n]) []

/-- The columns that a filter names, in the order of their first use. -/
def columns (f : Filter) : List String := distinct (f.comparisons.map (·.column))

end Filter

end DataGrid
