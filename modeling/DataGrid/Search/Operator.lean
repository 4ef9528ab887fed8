/-!
# Comparison operators

The **`Operator`** of a search term says how a cell has to compare with the operand. All but
`Operator.like` look at an ordering alone; that one stands for a pattern.
-/

namespace DataGrid

/-- How a cell has to compare with an operand. -/
inductive Operator
  | equal
  | notEqual
  | lessThan
  | lessOrEqual
  | greaterThan
  | greaterOrEqual
  /-- The operand is a pattern that the cell has to match. -/
  | like
  deriving DecidableEq, Repr, Inhabited

namespace Operator

/-- How an operator is written in the text of a filter. -/
def symbol : Operator → String
  | .equal => "="
  | .notEqual => "<>"
  | .lessThan => "<"
  | .lessOrEqual => "<="
  | .greaterThan => ">"
  | .greaterOrEqual => ">="
  | .like => "LIKE"

/-- Whether an operator asks which of two values comes first. -/
def isOrdering : Operator → Bool
  | .lessThan | .lessOrEqual | .greaterThan | .greaterOrEqual => true
  | .equal | .notEqual | .like => false

/-- Whether an operator is satisfied by a cell that stands in this order to the operand. -/
def accepts : Operator → Ordering → Bool
  | .equal, o => o.isEq
  | .notEqual, o => o.isNe
  | .lessThan, o => o.isLT
  | .lessOrEqual, o => o.isLE
  | .greaterThan, o => o.isGT
  | .greaterOrEqual, o => o.isGE
  | .like, _ => false

end Operator

end DataGrid
