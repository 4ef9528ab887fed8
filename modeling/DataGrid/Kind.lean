import DataGrid.Table.Basic

/-!
# Kinds of columns

The **`Kind`** of a column says how its cells are shown and searched. It follows from the declared
type, except that a column of texts may turn out to hold the literals of a check box
(`Kind.booleanEnum`); what these literals are is given by **`BooleanTokens`**.
-/

namespace DataGrid

/-- What the cells of a column are. -/
inductive Kind
  | string
  | numeric
  | booleanEnum
  | binary
  | other
  deriving DecidableEq, Repr

namespace Kind

/-- The kind that a declared type stands for, whatever the cells hold. -/
def ofDeclared : ColumnType → Kind
  | .string => .string
  | .number => .numeric
  | .binary => .binary
  | .boolean | .other => .other

/-- The word for a kind. -/
def label : Kind → String
  | .string => "string"
  | .numeric => "numeric"
  | .booleanEnum => "boolean_enum"
  | .binary => "binary"
  | .other => "other"

/-- Whether the cells are texts. -/
def isTextual : Kind → Bool
  | .string | .booleanEnum => true
  | .numeric | .binary | .other => false

end Kind

/-- The state of a check box. -/
inductive CheckState
  | checked
  | unchecked
  | indeterminate
  deriving DecidableEq, Repr, Inhabited

namespace CheckState

/-- The state of a check box that nobody has touched. -/
def initial : CheckState := .indeterminate

/-- The word for a state. -/
def label : CheckState → String
  | .checked => "checked"
  | .unchecked => "unchecked"
  | .indeterminate => "indeterminate"

end CheckState

/-- The texts that a check box reads from a cell and writes into it. -/
structure BooleanTokens where
  trueValue : String := "TRUE"
  falseValue : String := "FALSE"
  indeterminateValue : String := "FALSE"
  deriving DecidableEq, Repr

namespace BooleanTokens

/-- Whether a text is the literal for true or for false, to the letter. -/
def isLiteral (t : BooleanTokens) (text : String) : Bool :=
  text == t.trueValue || text == t.falseValue

/-- The literal for a state of the check box. -/
def tokenFor (t : BooleanTokens) : CheckState → String
  | .checked => t.trueValue
  | .unchecked => t.falseValue
  | .indeterminate => t.indeterminateValue

/-- The state in which the check box shows a cell. -/
def stateOf (t : BooleanTokens) (v : Value) : CheckState :=
  if v.text = t.trueValue then .checked
  else if v.text = t.falseValue then .unchecked
  else .indeterminate

end BooleanTokens

end DataGrid
