import DataGrid.Changes
import DataGrid.Document.Basic
import DataGrid.Search.Entry
import DataGrid.Search.Resolved

/-!
# Stored options, filters and conditions

The documents that stand for kinds of columns, for the options of classification, layout and search,
for filters and search conditions, and for summaries of changes. Options may leave out any field,
and a filter its wildcard; all else has to be complete.
-/

namespace DataGrid

open Document

namespace Kind

/-- All kinds of columns. -/
def all : List Kind := [.string, .numeric, .booleanEnum, .binary, .other]

/-- The document of a kind. -/
def toDocument (k : Kind) : Document := .text k.label

/-- The kind that a document stands for. -/
def ofDocument? (d : Document) : Option Kind := d.case? .json all label

end Kind

namespace BooleanTokens

/-- The document of the literals of a check box. -/
def toDocument (t : BooleanTokens) : Document :=
  .record [("true_value", .text t.trueValue), ("false_value", .text t.falseValue),
    ("indeterminate_value", .text t.indeterminateValue)]

/-- The literals that a document stands for. -/
def ofDocument? (format : Format) (d : Document) : Option BooleanTokens := do
  let ms ← d.members? format ["true_value", "false_value", "indeterminate_value"]
  let default : BooleanTokens := {}
  return {
    trueValue := ← defaulted text? ms "true_value" default.trueValue
    falseValue := ← defaulted text? ms "false_value" default.falseValue
    indeterminateValue := ← defaulted text? ms "indeterminate_value" default.indeterminateValue }

end BooleanTokens

namespace Evidence

/-- All rules of evidence. -/
def all : List Evidence := [.allLiterals, .anyLiteral]

/-- The name under which a rule of evidence is stored. -/
def storedName : Evidence → String
  | .allLiterals => "all_literals"
  | .anyLiteral => "any_literal"

/-- The document of a rule of evidence. -/
def toDocument (e : Evidence) : Document := .text e.storedName

/-- The rule of evidence that a document stands for. -/
def ofDocument? (format : Format) (d : Document) : Option Evidence :=
  d.case? format all storedName

end Evidence

namespace ClassifierOptions

/-- The document of the options of classification. -/
def toDocument (o : ClassifierOptions) : Document :=
  .record [("boolean_tokens", o.tokens.toDocument), ("evidence", o.evidence.toDocument)]

/-- The options of classification that a document stands for. -/
def ofDocument? (format : Format) (d : Document) : Option ClassifierOptions := do
  let ms ← d.members? format ["boolean_tokens", "evidence"]
  let default : ClassifierOptions := {}
  return {
    tokens := ← defaulted (BooleanTokens.ofDocument? format) ms "boolean_tokens" default.tokens
    evidence := ← defaulted (Evidence.ofDocument? format) ms "evidence" default.evidence }

end ClassifierOptions

namespace LayoutOptions

/-- The document of the options of layout. -/
def toDocument (o : LayoutOptions) : Document :=
  .record [("hidden_columns", .sequence (o.hiddenColumns.map .text)),
    ("highlight_column", .text o.highlightColumn), ("numeric_format", .text o.numericFormat)]

/-- The options of layout that a document stands for. -/
def ofDocument? (format : Format) (d : Document) : Option LayoutOptions := do
  let ms ← d.members? format ["hidden_columns", "highlight_column", "numeric_format"]
  let default : LayoutOptions := {}
  return {
    hiddenColumns := ← defaulted (list? text?) ms "hidden_columns" default.hiddenColumns
    highlightColumn := ← defaulted text? ms "highlight_column" default.highlightColumn
    numericFormat := ← defaulted text? ms "numeric_format" default.numericFormat }

end LayoutOptions

namespace Operator

/-- All operators. -/
def all : List Operator :=
  [.equal, .notEqual, .lessThan, .lessOrEqual, .greaterThan, .greaterOrEqual, .like]

/-- The name under which an operator is stored. -/
def storedName : Operator → String
  | .equal => "equal"
  | .notEqual => "not_equal"
  | .lessThan => "less_than"
  | .lessOrEqual => "less_or_equal"
  | .greaterThan => "greater_than"
  | .greaterOrEqual => "greater_or_equal"
  | .like => "like"

/-- The document of an operator. -/
def toDocument (o : Operator) : Document := .text o.storedName

/-- The operator that a document stands for. -/
def ofDocument? (d : Document) : Option Operator := d.case? .json all storedName

end Operator

namespace Comparison

/-- The document of a comparison. -/
def toDocument (c : Comparison) : Document :=
  .record [("column", .text c.column), ("operator", c.operator.toDocument),
    ("operand", .text c.operand)]

/-- The comparison that a document stands for. -/
def ofDocument? (d : Document) : Option Comparison := do
  let ms ← d.members? .json ["column", "operator", "operand"]
  return {
    column := ← required text? ms "column"
    operator := ← required Operator.ofDocument? ms "operator"
    operand := ← required text? ms "operand" }

end Comparison

namespace Filter

/-- The document of a filter. -/
def toDocument (f : Filter) : Document :=
  .record [("comparisons", .sequence (f.comparisons.map Comparison.toDocument)),
    ("wildcard", ofCharacter f.wildcard)]

/-- The filter that a document stands for. -/
def ofDocument? (d : Document) : Option Filter := do
  let ms ← d.members? .json ["comparisons", "wildcard"]
  return {
    comparisons := ← required (list? Comparison.ofDocument?) ms "comparisons"
    wildcard := ← defaulted character? ms "wildcard" Term.defaultWildcard }

end Filter

namespace SearchMarks

/-- The document of the marks in a search text. -/
def toDocument (m : SearchMarks) : Document :=
  .record [("separator", ofCharacter m.separator), ("wildcard", ofCharacter m.wildcard)]

/-- The marks that a document stands for. -/
def ofDocument? (d : Document) : Option SearchMarks := do
  let ms ← d.members? .json ["separator", "wildcard"]
  let default : SearchMarks := {}
  return {
    separator := ← defaulted character? ms "separator" default.separator
    wildcard := ← defaulted character? ms "wildcard" default.wildcard }

end SearchMarks

namespace FilterOptions

/-- The document of the options of comparison. -/
def toDocument (o : FilterOptions) : Document :=
  .record [("case_sensitive", .boolean o.caseSensitive)]

/-- The options of comparison that a document stands for. -/
def ofDocument? (d : Document) : Option FilterOptions := do
  let ms ← d.members? .json ["case_sensitive"]
  let default : FilterOptions := {}
  return { caseSensitive := ← defaulted boolean? ms "case_sensitive" default.caseSensitive }

end FilterOptions

namespace SearchCondition

/-- The document of a search condition. -/
def toDocument (c : SearchCondition) : Document :=
  .record [("column", .text c.column), ("value", .text c.value), ("type", c.kind.toDocument),
    ("is_function", .boolean c.isFunction)]

/-- The search condition that a document stands for. -/
def ofDocument? (d : Document) : Option SearchCondition := do
  let ms ← d.members? .json ["column", "value", "type", "is_function"]
  return {
    column := ← required text? ms "column"
    value := ← required text? ms "value"
    kind := ← required Kind.ofDocument? ms "type"
    isFunction := ← required boolean? ms "is_function" }

end SearchCondition

namespace ChangeSummary

/-- The document of a summary of changes. -/
def toDocument (s : ChangeSummary) : Document :=
  .record [("candidates", .integer s.candidates), ("added", .integer s.added),
    ("modified", .integer s.modified), ("deleted", .integer s.deleted),
    ("pruned_blank", .integer s.prunedBlank), ("pruned_unchanged", .integer s.prunedUnchanged)]

/-- The summary of changes that a document stands for. -/
def ofDocument? (d : Document) : Option ChangeSummary := do
  let ms ← d.members? .json ["candidates", "added", "modified", "deleted", "pruned_blank",
    "pruned_unchanged"]
  return {
    candidates := ← required count? ms "candidates"
    added := ← required count? ms "added"
    modified := ← required count? ms "modified"
    deleted := ← required count? ms "deleted"
    prunedBlank := ← required count? ms "pruned_blank"
    prunedUnchanged := ← required count? ms "pruned_unchanged" }

end ChangeSummary

end DataGrid
