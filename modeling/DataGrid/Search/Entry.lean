import DataGrid.Layout
import DataGrid.Search.Filter
import DataGrid.Text.Split

/-!
# Search entries

A grid has a search box for each column, and what stands in it is a **`SearchEntry`**. Its text is
cut into terms at the separator. The entries of a grid become a filter for the rows at hand
(**`Filter.ofEntries`**) or conditions for a data source that filters by itself
(**`searchConditions`**) and reads the same terms.
-/

namespace DataGrid

open Text

/-- The characters with a meaning of their own in a search text. -/
structure SearchMarks where
  /-- Stands between the terms of a text. -/
  separator : Char := ';'
  /-- Makes a term a pattern. -/
  wildcard : Char := Term.defaultWildcard
  deriving DecidableEq, Repr

namespace SearchMarks

/-- The terms of a search text, without the blanks around them and without empty ones. -/
def termChars (m : SearchMarks) (text : List Char) : List (List Char) :=
  ((splitAt m.separator text).map trim).filter (!·.isEmpty)

/-- The terms of a search text. -/
def terms (m : SearchMarks) (text : String) : List String :=
  (m.termChars text.toList).map String.ofList

end SearchMarks

/-- What stands in the search box of a column. -/
structure SearchEntry where
  column : String
  kind : Kind
  text : String := ""
  /-- The literals of the check box, if the search box is one. -/
  tokens : Option BooleanTokens := none
  isFunction : Bool := false
  deriving DecidableEq, Repr

namespace SearchEntry

/-- The empty search box of a column. -/
def ofLayout (l : ColumnLayout) : SearchEntry where
  column := l.name
  kind := l.kind
  tokens :=
    match l.widget with
    | .checkBox tokens => some tokens
    | .textBox | .image => none
  isFunction := l.isFunction

/-- The search box with another text in it. -/
def withText (e : SearchEntry) (text : String) : SearchEntry := { e with text }

/-- The search box with its check box in a state, which becomes the literal for this state; a
search box without a check box stays as it is. -/
def withCheckState (e : SearchEntry) (s : CheckState) : SearchEntry :=
  match e.tokens with
  | some tokens => { e with text := tokens.tokenFor s }
  | none => e

/-- Whether nothing is asked for. -/
def isBlank (e : SearchEntry) : Bool := isBlankText e.text

/-- The comparisons that the terms of an entry stand for. -/
def comparisons (m : SearchMarks) (e : SearchEntry) : List Comparison :=
  (m.terms e.text).map fun term =>
    let (operator, operand) := Term.parse m.wildcard term
    { column := e.column, operator, operand }

end SearchEntry

/-- The filter that all terms of all entries together stand for. -/
def Filter.ofEntries (m : SearchMarks) (entries : List SearchEntry) : Filter where
  comparisons := (entries.filter (!·.isBlank)).flatMap (·.comparisons m)
  wildcard := m.wildcard

/-- What a data source is asked for in one column. -/
structure SearchCondition where
  column : String
  /-- The terms with the separator between them. -/
  value : String
  kind : Kind
  isFunction : Bool
  deriving DecidableEq, Repr

/-- The condition of an entry, if it has any terms. -/
def SearchEntry.condition? (m : SearchMarks) (e : SearchEntry) : Option SearchCondition :=
  let terms := m.termChars e.text.toList
  if terms.isEmpty then none
  else some {
    column := e.column
    value := String.ofList (join m.separator terms)
    kind := e.kind
    isFunction := e.isFunction }

/-- The conditions of the entries that have any terms. -/
def searchConditions (m : SearchMarks) (entries : List SearchEntry) : List SearchCondition :=
  entries.filterMap (·.condition? m)

end DataGrid
