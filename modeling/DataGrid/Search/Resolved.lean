import DataGrid.Classification
import DataGrid.Search.Filter
import DataGrid.Search.Like

/-!
# Filters at work

Before a filter is put to work it is *resolved* against a table: names become places, operands of
numeric columns become numbers and all others are put into the case in which they are compared
(**`Filter.resolve`**). What is wrong with a filter comes to light there and not at the first row.

A **`ResolvedFilter`** is then tested on rows (`matchesRow`, **`isMatch`**) or applied to the table
(**`apply`**). Comparisons are tested in order up to the first that fails. A null cell satisfies no
comparison, a cell that is not-a-number none in a numeric column, and a cell of a numeric column
that is not a number at all is an error.

A pattern is taken as it stands and is never refused. Where patterns are compiled to regular expressions,
one that is too large for the compiler is an error as well; that limit is left out here, and
`FilterError` has no case for it.
-/

namespace DataGrid

open Text

/-- How texts are compared. -/
structure FilterOptions where
  /-- Whether case counts. -/
  caseSensitive : Bool := false
  deriving DecidableEq, Repr

/-- What is wrong with the operand of a comparison in a numeric column. -/
inductive OperandFault
  | numeral (e : NumeralError)
  | notFinite
  deriving DecidableEq, Repr

/-- The fault in words. -/
def OperandFault.message : OperandFault → String
  | .numeral e => e.message
  | .notFinite => "not a finite number"

/-- Why a filter could not be resolved or tested. No pattern is too large, so there is no case for that. -/
inductive FilterError
  | unknownColumn (name : String)
  | invalidOperand (column : String) (operator : Operator) (operand : String)
      (fault : OperandFault)
  | unsupportedOperator (column : String) (operator : Operator) (kind : Kind)
  | table (e : TableError)
  deriving DecidableEq, Repr

/-- The error in words. -/
def FilterError.message : FilterError → String
  | .unknownColumn name => s!"Unknown filter column: {name}"
  | .invalidOperand column operator operand fault =>
    s!"Invalid operand '{operand}' for {operator.symbol} on column '{column}': {fault.message}"
  | .unsupportedOperator column operator kind =>
    s!"Operator {operator.symbol} is not supported on {kind.label} column '{column}'"
  | .table e => e.message

/-- What a cell is tested for. -/
inductive Test
  /-- The text of the cell has to be covered by a pattern. -/
  | pattern (pattern : List Char)
  /-- The number in the cell is compared with a number. -/
  | number (operand : Binary64)
  /-- The text of the cell is compared with a text. -/
  | text (operand : List Char)
  deriving DecidableEq, Repr

/-- A comparison whose column is found and whose operand is read. -/
structure ResolvedComparison where
  column : String
  index : Nat
  operator : Operator
  test : Test
  deriving DecidableEq, Repr

/-- A filter that is ready to test the rows of a table. -/
structure ResolvedFilter where
  comparisons : List ResolvedComparison
  wildcard : Char
  caseSensitive : Bool
  deriving DecidableEq, Repr

/-! ## Resolving -/

/-- A text in the case in which texts are compared. -/
def folded (caseSensitive : Bool) (s : List Char) : List Char :=
  if caseSensitive then s else lower s

/-- The finite number that an operand stands for. -/
def readOperand (operand : String) : Except OperandFault Binary64 :=
  match Binary64.read operand.toList with
  | .error e => .error (.numeral e)
  | .ok x => if x.isFinite then .ok x else .error .notFinite

/-- What a comparison in a column of some kind tests a cell for. A pattern is accepted at any size. -/
def Comparison.test (c : Comparison) (kind : Kind) (options : FilterOptions) :
    Except FilterError Test :=
  match kind, c.operator with
  | .binary, _ => .error (.unsupportedOperator c.column c.operator kind)
  | _, .like => .ok (.pattern c.operand.toList)
  | .numeric, _ =>
    match readOperand c.operand with
    | .ok x => .ok (.number x)
    | .error fault => .error (.invalidOperand c.column c.operator c.operand fault)
  | .string, _ | .booleanEnum, _ | .other, _ =>
    .ok (.text (folded options.caseSensitive c.operand.toList))

/-- A column of a table by name: its place, and its kind, which is the one that its declared type
stands for where no kind is given. -/
def Table.findKind? (t : Table) (kinds : ColumnKinds) (name : String) : Option (Nat × Kind) := do
  let index ← t.columnIndex? name
  let column ← t.columns[index]?
  return (index, (kinds.get? name).getD (.ofDeclared column.type))

/-- A comparison resolved against a table. -/
def Comparison.resolve (t : Table) (kinds : ColumnKinds) (options : FilterOptions)
    (c : Comparison) : Except FilterError ResolvedComparison :=
  match t.findKind? kinds c.column with
  | none => .error (.unknownColumn c.column)
  | some (index, kind) => do
    let test ← c.test kind options
    return { column := c.column, index, operator := c.operator, test }

/-- A filter resolved against a table, or the first error in it. -/
def Filter.resolve (f : Filter) (t : Table) (kinds : ColumnKinds) (options : FilterOptions) :
    Except FilterError ResolvedFilter := do
  let comparisons ← f.comparisons.mapM (·.resolve t kinds options)
  return { comparisons, wildcard := f.wildcard, caseSensitive := options.caseSensitive }

/-! ## Testing rows -/

namespace ResolvedFilter

/-- Whether the filter lets every row pass. -/
def isEmpty (f : ResolvedFilter) : Bool := f.comparisons.isEmpty

/-- Which characters count as the same in a pattern. -/
def sameChar (f : ResolvedFilter) (c d : Char) : Bool :=
  if f.caseSensitive then c == d else sameFolded c d

/-- Whether a cell that is not null satisfies a comparison. -/
def satisfies (f : ResolvedFilter) (c : ResolvedComparison) (row : Nat) (v : Value) :
    Except FilterError Bool :=
  match c.test with
  | .pattern pattern => .ok (Like.covers f.sameChar f.wildcard pattern v.text.toList)
  | .number operand =>
    match v.asNumber? with
    | none => .error (.table (.conversion c.column row v.text .number))
    | some x => .ok ((x.compare? operand).any c.operator.accepts)
  | .text operand =>
    .ok (c.operator.accepts (compare (folded f.caseSensitive v.text.toList) operand))

/-- Whether a row satisfies a comparison. -/
def accepts (f : ResolvedFilter) (row : Nat) (r : Row) (c : ResolvedComparison) :
    Except FilterError Bool :=
  match (r.cell? c.index).getD .null with
  | .null => .ok false
  | v => f.satisfies c row v

/-- Whether a row satisfies each of some comparisons, up to the first that it does not satisfy. -/
def acceptsAll (f : ResolvedFilter) (row : Nat) (r : Row) :
    List ResolvedComparison → Except FilterError Bool
  | [] => .ok true
  | c :: cs => do
    if ← f.accepts row r c then f.acceptsAll row r cs else return false

/-- Whether a row, given with its index, passes the filter. -/
def matchesRow (f : ResolvedFilter) (row : Nat) (r : Row) : Except FilterError Bool :=
  f.acceptsAll row r f.comparisons

/-- Whether the row at an index passes the filter. -/
def isMatch (f : ResolvedFilter) (t : Table) (row : Nat) : Except FilterError Bool :=
  match t.rows[row]? with
  | none => .error (.table (.rowOutOfRange row t.rowCount))
  | some r => f.matchesRow row r

/-- The indices of those rows of a list that are not deleted and pass the filter, counting from an
index. -/
def applyFrom (f : ResolvedFilter) (index : Nat) : List Row → Except FilterError (List Nat)
  | [] => .ok []
  | r :: rs =>
    if r.state = .deleted then f.applyFrom (index + 1) rs
    else do
      let passes ← f.matchesRow index r
      let later ← f.applyFrom (index + 1) rs
      return if passes then index :: later else later

/-- The indices of the rows that are not deleted and pass the filter, in order, or the error at the
first row that has one. -/
def apply (f : ResolvedFilter) (t : Table) : Except FilterError (List Nat) :=
  f.applyFrom 0 t.rows

end ResolvedFilter

end DataGrid
