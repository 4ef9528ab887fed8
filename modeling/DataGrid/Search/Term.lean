import DataGrid.Search.Operator
import DataGrid.Text.Blank

/-!
# Search terms

A term that a user types is an operand with an operator in front of it or without one. The operator
is found at the start of the term, where the longer spellings go first because the shorter ones
begin them. A term without an operator is a pattern if the wildcard occurs in it, and asks for
equality otherwise; so a text with the wildcard in it cannot be asked for as it is. Blanks around
the term and between operator and operand do not count.
-/

namespace DataGrid.Term

open Text

/-- The wildcard where none is chosen. -/
def defaultWildcard : Char := '%'

/-- The operator of a term and its operand, where the term has no blanks around it. -/
def parseTrimmed (wildcard : Char) : List Char → Operator × List Char
  | '<' :: '>' :: s => (.notEqual, trim s)
  | '!' :: '=' :: s => (.notEqual, trim s)
  | '<' :: '=' :: s => (.lessOrEqual, trim s)
  | '>' :: '=' :: s => (.greaterOrEqual, trim s)
  | '<' :: s => (.lessThan, trim s)
  | '>' :: s => (.greaterThan, trim s)
  | s => if wildcard ∈ s then (.like, s) else (.equal, s)

/-- The operator of a term and its operand. -/
def parseChars (wildcard : Char) (token : List Char) : Operator × List Char :=
  parseTrimmed wildcard (trim token)

/-- The operator of a term and its operand. -/
def parse (wildcard : Char) (token : String) : Operator × String :=
  let (operator, operand) := parseChars wildcard token.toList
  (operator, String.ofList operand)

end DataGrid.Term
