import DataGrid.Proofs.Text.Pieces
import DataGrid.Search.Term

/-!
# The grammar of search terms

Every text can be read as a search term, but not every operator can be asked for with every operand.

* **`Term.Expressible`**: an operand has no blanks around it. An operator that is written in front goes with
  any such operand, also with one that starts with an operator itself. Without an operator in front the
  operand must not start with one, and the wildcard in it decides between a pattern and equality.
* `Term.parseTrimmed_cases`: what a term without blanks around it is read as. The spellings overlap, but
  all that is left of this is whether one of them starts the term.
* **`Term.parse_image`**: so these pairs are just what terms are read as, and each of them is read from
  the text that it is written as (`Term.text`). Between operator and operand stands a space, which keeps
  the first character of the operand out of the operator.
-/

namespace DataGrid

open Text

/-- Whether an operator is written in front of its operand. -/
def Operator.isLeading : Operator → Bool
  | .notEqual | .lessThan | .lessOrEqual | .greaterThan | .greaterOrEqual => true
  | .equal | .like => false

namespace Term

/-- The spellings of the operators that are written in front of an operand. -/
def spellings : List String := ["<>", "!=", "<=", ">=", "<", ">"]

/-- Whether a text starts with an operator. -/
def StartsWithOperator (s : List Char) : Prop := ∃ spelling ∈ spellings, spelling.toList <+: s

/-- Whether an operator and an operand can be asked for with a search term. -/
structure Expressible (wildcard : Char) (o : Operator) (operand : List Char) : Prop where
  trimmed : Trimmed operand
  operator : o.isLeading = true ∨
    ¬ StartsWithOperator operand ∧ o = if wildcard ∈ operand then .like else .equal

/-- How an operator and an operand are written as a search term. -/
def text (o : Operator) (operand : String) : String :=
  if o.isLeading then o.symbol ++ " " ++ operand else operand

/-! ## Reading -/

/-- A term starts with an operator, and what is left is the operand, or it is the operand itself. -/
theorem parseTrimmed_cases (wildcard : Char) (s : List Char) :
    (StartsWithOperator s ∧ (parseTrimmed wildcard s).1.isLeading = true ∧
      Trimmed (parseTrimmed wildcard s).2) ∨
    (¬ StartsWithOperator s ∧
      parseTrimmed wildcard s = (if wildcard ∈ s then .like else .equal, s)) := by
  unfold parseTrimmed
  split
  · exact .inl ⟨⟨"<>", by decide, List.prefix_append ['<', '>'] _⟩, rfl, trim_spec _⟩
  · exact .inl ⟨⟨"!=", by decide, List.prefix_append ['!', '='] _⟩, rfl, trim_spec _⟩
  · exact .inl ⟨⟨"<=", by decide, List.prefix_append ['<', '='] _⟩, rfl, trim_spec _⟩
  · exact .inl ⟨⟨">=", by decide, List.prefix_append ['>', '='] _⟩, rfl, trim_spec _⟩
  · exact .inl ⟨⟨"<", by decide, List.prefix_append ['<'] _⟩, rfl, trim_spec _⟩
  · exact .inl ⟨⟨">", by decide, List.prefix_append ['>'] _⟩, rfl, trim_spec _⟩
  · rename_i notEqual notEqual' lessOrEqual greaterOrEqual lessThan greaterThan
    refine .inr ⟨?_, by split <;> rfl⟩
    rintro ⟨spelling, listed, rest, rfl⟩
    simp only [spellings, List.mem_cons, List.not_mem_nil, or_false] at listed
    obtain rfl | rfl | rfl | rfl | rfl | rfl := listed
    · exact notEqual rest rfl
    · exact notEqual' rest rfl
    · exact lessOrEqual rest rfl
    · exact greaterOrEqual rest rfl
    · exact lessThan rest rfl
    · exact greaterThan rest rfl

/-- A term that starts with no operator is an operand, a pattern if there is a wildcard in it. -/
theorem parseTrimmed_of_not_startsWithOperator {wildcard : Char} {s : List Char}
    (plain : ¬ StartsWithOperator s) :
    parseTrimmed wildcard s = (if wildcard ∈ s then .like else .equal, s) := by
  obtain ⟨starts, -⟩ | ⟨-, parsed⟩ := parseTrimmed_cases wildcard s
  · exact absurd starts plain
  · exact parsed

/-- What a term is read as can be asked for with a term. -/
theorem expressible_parseTrimmed (wildcard : Char) {s : List Char} (trimmed : Trimmed s) :
    Expressible wildcard (parseTrimmed wildcard s).1 (parseTrimmed wildcard s).2 := by
  obtain ⟨-, leading, operand⟩ | ⟨plain, parsed⟩ := parseTrimmed_cases wildcard s
  · exact ⟨operand, .inl leading⟩
  · rw [parsed]
    exact ⟨trimmed, .inr ⟨plain, rfl⟩⟩

/-! ## Writing -/

variable {wildcard : Char} {o : Operator}

/-- The space after the operator is no part of the operand, and of the operator neither. -/
theorem parseTrimmed_symbol_space (leading : o.isLeading = true) {s : List Char} (trimmed : Trimmed s) :
    parseTrimmed wildcard (o.symbol.toList ++ ' ' :: s) = (o, s) := by
  have operand : trim (' ' :: s) = s := trimmed.trim_eq
  cases o with
  | equal => cases leading
  | like => cases leading
  | _ => exact congrArg (Prod.mk _) operand

/-- An operand may also be empty, and then the operator is all that trimming leaves. -/
theorem parseChars_symbol_space (leading : o.isLeading = true) {s : List Char} (trimmed : Trimmed s) :
    parseChars wildcard (o.symbol.toList ++ ' ' :: s) = (o, s) := by
  cases s with
  | nil =>
    cases o with
    | equal => cases leading
    | like => cases leading
    | _ => rfl
  | cons c s =>
    have whole : Trimmed (o.symbol.toList ++ ' ' :: c :: s) := by
      constructor
      · have first : ∀ d ∈ o.symbol.toList.head?, isBlank d = false := by
          intro d hd
          cases o <;> cases hd <;> rfl
        have symbol : o.symbol.toList.head?.isSome = true := by cases o <;> rfl
        rwa [List.head?_append, Option.or_of_isSome symbol]
      · rw [List.getLast?_append, List.getLast?_cons_cons, Option.or_of_isSome (by simp)]
        exact trimmed.2
    rw [parseChars, whole.trim_eq, parseTrimmed_symbol_space leading trimmed]

/-- Reading a term is reading its characters. -/
theorem parse_eq_iff {token operand : String} :
    parse wildcard token = (o, operand) ↔ parseChars wildcard token.toList = (o, operand.toList) := by
  rw [parse, Prod.mk.injEq, Prod.ext_iff, ← String.toList_inj, String.toList_ofList]

/-- An operator and an operand that can be asked for are read back from the term they are written as. -/
theorem parse_text {operand : String} (expressible : Expressible wildcard o operand.toList) :
    parse wildcard (text o operand) = (o, operand) := by
  rw [parse_eq_iff, text]
  cases leading : o.isLeading with
  | true =>
    rw [if_pos rfl, String.toList_append, String.toList_append, List.append_assoc]
    exact parseChars_symbol_space leading expressible.trimmed
  | false =>
    obtain ⟨plain, operator⟩ := expressible.operator.resolve_left (by simp [leading])
    rw [if_neg Bool.false_ne_true, parseChars, expressible.trimmed.trim_eq,
      parseTrimmed_of_not_startsWithOperator plain, operator]

/-- **What search terms can ask for.** An operator and an operand are what some term is read as exactly
if the operand has no blanks around it and either the operator is one that is written in front, or no
operator starts the operand and the wildcard in it tells whether it is a pattern. These pairs, and no
others, are read again from the text that they are written as. -/
theorem parse_image (wildcard : Char) (o : Operator) (operand : String) :
    ((∃ token, parse wildcard token = (o, operand)) ↔ Expressible wildcard o operand.toList) ∧
      (parse wildcard (text o operand) = (o, operand) ↔ Expressible wildcard o operand.toList) := by
  have expressible {token : String} (parsed : parse wildcard token = (o, operand)) :
      Expressible wildcard o operand.toList := by
    have read := expressible_parseTrimmed wildcard (trim_spec token.toList)
    rwa [← parseChars, parse_eq_iff.mp parsed] at read
  exact ⟨⟨fun ⟨_, parsed⟩ => expressible parsed, fun h => ⟨_, parse_text h⟩⟩, expressible, parse_text⟩

-- Without the space the operand would be taken for a part of the operator.
example : parse '%' (text .lessThan "=5") = (.lessThan, "=5") ∧ parse '%' "<=5" = (.lessOrEqual, "5") := by
  decide

end Term

end DataGrid
