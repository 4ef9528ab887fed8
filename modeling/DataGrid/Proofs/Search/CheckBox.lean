import DataGrid.Proofs.Layout.Columns
import DataGrid.Proofs.Search.TextColumn

/-!
# Searching by a check box

Setting the check box of a column puts the literal for its state into the search box, where it is read
like any other text: cut into terms, each with an operator or a wildcard in it or without, and
compared by case or not. The check boxes of the cells read the literals to the letter. Whether the search
finds the cells that show the state is therefore a matter of the two literals
(**`BooleanTokens.SetsApart`**).

* `view_checkBox`: a search by a check box always has a view, of the rows whose cell passes the literal.
* `viewChecked_of_setsApart`: if the literal sets its state apart, these are the rows that show the
  state.
* `SearchMarks.IsPlain.setsApart`: a literal that is a plain term does, unless the two literals differ
  only in case and case does not count.
* **`checkBox_search`** says all of this, and that no other literal can be searched for in every table.
* `checkBox_search_not_exact`: literals that differ in case, and an empty one.
-/

namespace DataGrid

open Text

/-! ## States and literals -/

/-- The other state that a literal stands for. -/
def CheckState.opposite : CheckState → CheckState
  | .checked => .unchecked
  | .unchecked => .checked
  | .indeterminate => .indeterminate

namespace BooleanTokens

variable {tokens : BooleanTokens} {s : CheckState} {v : Value} {text : String}

/-- A cell shows checked or unchecked exactly if its text is the literal for it, as long as the two
literals differ. -/
theorem stateOf_eq_iff (ne : tokens.trueValue ≠ tokens.falseValue) (decided : s ≠ .indeterminate) :
    tokens.stateOf v = s ↔ v.text = tokens.tokenFor s := by
  unfold stateOf
  cases s with
  | checked => split_ifs <;> simp_all [tokenFor]
  | unchecked =>
    split_ifs with isTrue isFalse
    · simp [tokenFor, isTrue, ne]
    · simp [tokenFor, isFalse]
    · simp [tokenFor, isFalse]
  | indeterminate => exact absurd rfl decided

/-- The literals are the one for a decided state and the one for the opposite state. -/
theorem isLiteral_iff (decided : s ≠ .indeterminate) :
    tokens.isLiteral text = true ↔
      text = tokens.tokenFor s ∨ text = tokens.tokenFor s.opposite := by
  rw [isLiteral, Bool.or_eq_true, beq_iff_eq, beq_iff_eq]
  cases s with
  | checked => exact Iff.rfl
  | unchecked => exact or_comm
  | indeterminate => exact absurd rfl decided

/-- The literals for a decided state and for its opposite differ if the two literals do. -/
theorem tokenFor_opposite_ne (ne : tokens.trueValue ≠ tokens.falseValue)
    (decided : s ≠ .indeterminate) : tokens.tokenFor s.opposite ≠ tokens.tokenFor s := by
  cases s with
  | checked => exact ne.symm
  | unchecked => exact ne
  | indeterminate => exact absurd rfl decided

/-- Whether the literal for a state, read as a search text, sets the state apart: cells with this literal
pass it, and neither those with the other literal nor null ones do. -/
structure SetsApart (tokens : BooleanTokens) (m : SearchMarks) (caseSensitive : Bool)
    (s : CheckState) : Prop where
  own : m.passes caseSensitive (tokens.tokenFor s) (.string (tokens.tokenFor s)) = true
  other : m.passes caseSensitive (tokens.tokenFor s) (.string (tokens.tokenFor s.opposite)) = false
  null : m.passes caseSensitive (tokens.tokenFor s) .null = false

/-- Among null cells and cells with one of the literals, those pass that show the state. -/
theorem SetsApart.passes_eq {m : SearchMarks} {caseSensitive : Bool}
    (apart : tokens.SetsApart m caseSensitive s) (ne : tokens.trueValue ≠ tokens.falseValue)
    (decided : s ≠ .indeterminate) (literal : v.isNull = false → tokens.isLiteral v.text = true) :
    m.passes caseSensitive (tokens.tokenFor s) v = (!v.isNull && tokens.stateOf v == s) := by
  cases null : v.isNull with
  | true =>
    rw [Value.isNull_iff.mp null, apart.null]
    rfl
  | false =>
    have shows : (tokens.stateOf v == s) = decide (v.text = tokens.tokenFor s) := by
      rw [Bool.eq_iff_iff, beq_iff_eq, decide_eq_true_iff, stateOf_eq_iff ne decided]
    have passes {token : String} (text : v.text = token) :
        m.passes caseSensitive (tokens.tokenFor s) v =
          m.passes caseSensitive (tokens.tokenFor s) (.string token) :=
      SearchMarks.passes_congr null text
    rw [shows, Bool.not_false, Bool.true_and]
    rcases (isLiteral_iff decided).mp (literal null) with own | other
    · rw [passes own, apart.own, decide_eq_true own]
    · have different := other.trans_ne (tokenFor_opposite_ne ne decided)
      rw [passes other, apart.other, decide_eq_false different]

end BooleanTokens

/-- A plain literal sets its state apart, as long as the other one is not the same to the
comparison. -/
theorem SearchMarks.IsPlain.setsApart {m : SearchMarks} {tokens : BooleanTokens}
    {caseSensitive : Bool} {s : CheckState} (plain : m.IsPlain (tokens.tokenFor s).toList)
    (ne : folded caseSensitive (tokens.tokenFor s.opposite).toList ≠
      folded caseSensitive (tokens.tokenFor s).toList) :
    tokens.SetsApart m caseSensitive s := by
  have passes (text : String) : m.passes caseSensitive (tokens.tokenFor s) (.string text) = true ↔
      folded caseSensitive text.toList = folded caseSensitive (tokens.tokenFor s).toList := by
    simp [SearchMarks.passes, plain.terms_eq, plain.parse_eq, Operator.admits, Value.isNull,
      Value.text, Operator.accepts]
  constructor
  · exact (passes _).mpr rfl
  · apply Bool.eq_false_iff.mpr
    intro alike
    exact ne ((passes _).mp alike)
  · rw [Bool.eq_false_iff, Ne, SearchMarks.passes_null, plain.terms_eq]
    exact List.cons_ne_nil _ _

/-! ## Views -/

namespace Table

/-- Whether a column of a table, by its index and its layout, is a check-box column in a table with
different column names, where all texts are asked for as evidence. -/
structure HasCheckBox (t : Table) (tokens : BooleanTokens) (layout : LayoutOptions) (index : Nat)
    (l : ColumnLayout) : Prop where
  distinct : (t.columns.map (·.name)).Nodup
  column : (TableLayout.build t ⟨tokens, .allLiterals⟩ layout).columns[index]? = some l
  kind : l.kind = .booleanEnum

/-- The rows in view when the check box for searching a column is in a state. -/
def viewChecked (t : Table) (tokens : BooleanTokens) (layout : LayoutOptions)
    (options : FilterOptions) (m : SearchMarks) (l : ColumnLayout) (s : CheckState) :
    Except FilterError (List Nat) :=
  t.view (TableLayout.build t ⟨tokens, .allLiterals⟩ layout).kinds options m
    [(SearchEntry.ofLayout l).withCheckState s]

/-- The rows that are not deleted and have a cell in a column that is not null and shows a state. -/
def shownAs (t : Table) (tokens : BooleanTokens) (index : Nat) (s : CheckState) : List Nat :=
  (t.liveRows.filter fun p =>
    let v := (p.1.cell? index).getD .null
    !v.isNull && tokens.stateOf v == s).map (·.2)

variable {t : Table} {tokens : BooleanTokens} {layout : LayoutOptions} {options : FilterOptions}
  {m : SearchMarks} {index : Nat} {l : ColumnLayout} {s : CheckState}

/-- A check box that is put in a state writes the literal for the state into the entry of its column. -/
theorem HasCheckBox.withCheckState_eq (h : t.HasCheckBox tokens layout index l) :
    (SearchEntry.ofLayout l).withCheckState s =
      { SearchEntry.ofLayout l with text := tokens.tokenFor s } := by
  obtain ⟨column, -, built⟩ := exists_column_of_build h.distinct h.column
  have widget : l.widget = .checkBox tokens := by
    have ofKind : l.widget = .ofKind tokens l.kind := by
      rw [← built]
      rfl
    rw [ofKind, h.kind]
    rfl
  rw [SearchEntry.withCheckState, SearchEntry.ofLayout, widget]

/-- A cell of a check-box column that is not null holds one of the two literals. -/
theorem HasCheckBox.isLiteral (h : t.HasCheckBox tokens layout index l) {row : Nat} {r : Row}
    (found : t.rows[row]? = some r) (shown : ((r.cell? index).getD .null).isNull = false) :
    tokens.isLiteral ((r.cell? index).getD .null).text = true := by
  obtain ⟨column, -, built⟩ := exists_column_of_build h.distinct h.column
  have kind : classifyColumn t ⟨tokens, .allLiterals⟩ index column = .booleanEnum := by
    rw [← h.kind, ← built]
    rfl
  cases cell : r.cell? index with
  | none =>
    rw [cell] at shown
    cases shown
  | some v =>
    rw [cell] at shown
    obtain ⟨-, -, all⟩ := classifyColumn_eq_booleanEnum_iff.mp kind
    have shows : t.Shows index v :=
      ⟨r, List.mem_of_getElem? found, cell, Value.isNull_eq_false_iff.mp shown⟩
    exact BooleanTokens.isLiteral_text_iff.mpr (all v shows)

/-- A search by a check box has a view of the rows whose cell passes the literal. -/
theorem view_checkBox (h : t.HasCheckBox tokens layout index l) :
    t.viewChecked tokens layout options m l s = .ok ((t.liveRows.filter fun p =>
      m.passes options.caseSensitive (tokens.tokenFor s) ((p.1.cell? index).getD .null)).map (·.2)) := by
  rw [viewChecked, h.withCheckState_eq]
  exact view_text (findKind?_build h.distinct h.column) (by simp [h.kind]) (by simp [h.kind])

/-- Rows that are picked by their indices are picked one by one. -/
theorem eq_of_map_filter_liveRows {p q : Row × Nat → Bool}
    (h : (t.liveRows.filter p).map (·.2) = (t.liveRows.filter q).map (·.2)) {x : Row × Nat}
    (hx : x ∈ t.liveRows) : p x = q x := by
  have mem (p : Row × Nat → Bool) : x.2 ∈ (t.liveRows.filter p).map (·.2) ↔ p x = true := by
    rw [List.mem_map]
    constructor
    · rintro ⟨y, hy, same⟩
      obtain ⟨live, picked⟩ := List.mem_filter.mp hy
      have here := (mem_liveRows_iff.mp live).1
      rw [same, (mem_liveRows_iff.mp hx).1, Option.some.injEq] at here
      rwa [← Prod.ext here.symm same]
    · exact fun picked => ⟨x, List.mem_filter.mpr ⟨hx, picked⟩, rfl⟩
  rw [Bool.eq_iff_iff, ← mem p, ← mem q, h]

/-- A literal that sets a state apart finds the cells that show the state. -/
theorem viewChecked_of_setsApart (h : t.HasCheckBox tokens layout index l)
    (ne : tokens.trueValue ≠ tokens.falseValue) (decided : s ≠ .indeterminate)
    (apart : tokens.SetsApart m options.caseSensitive s) :
    t.viewChecked tokens layout options m l s = .ok (t.shownAs tokens index s) := by
  rw [view_checkBox h, shownAs]
  have same : ∀ p ∈ t.liveRows,
      m.passes options.caseSensitive (tokens.tokenFor s) ((p.1.cell? index).getD .null) =
        (!((p.1.cell? index).getD .null).isNull &&
          tokens.stateOf ((p.1.cell? index).getD .null) == s) := by
    intro p hp
    apply apart.passes_eq ne decided
    exact h.isLiteral (mem_liveRows_iff.mp hp).1
  rw [List.filter_congr same]

/-- A table with a null cell and a cell for each of two literals. -/
def ofLiterals (tokens : BooleanTokens) : Table where
  name := "Flags"
  columns := [.named "FLAG" .string]
  rows := [.unchanged [.null], .unchanged [.string tokens.trueValue],
    .unchanged [.string tokens.falseValue]]

/-- The layout of the column of literals. -/
def literalsLayout (tokens : BooleanTokens) (layout : LayoutOptions) : ColumnLayout :=
  (Column.named "FLAG" .string).layout .booleanEnum tokens layout

/-- The column of the table of two literals has a check box. -/
theorem hasCheckBox_ofLiterals (tokens : BooleanTokens) (layout : LayoutOptions) :
    (ofLiterals tokens).HasCheckBox tokens layout 0 (literalsLayout tokens layout) := by
  have distinct : ((ofLiterals tokens).columns.map (·.name)).Nodup := List.nodup_singleton _
  have kind : classifyColumn (ofLiterals tokens) ⟨tokens, .allLiterals⟩ 0 (.named "FLAG" .string) =
      .booleanEnum := by
    simp [classifyColumn, ofLiterals, Column.named, columnTexts, Row.unchanged, Row.cell?,
      Value.isNull, Value.text, Evidence.accepts, BooleanTokens.isLiteral]
  refine ⟨distinct, ?_, rfl⟩
  rw [getElem?_columns_build distinct, literalsLayout, ← kind]
  rfl

/-- In the table of two literals the search finds what is shown only if the literal sets the state
apart. -/
theorem setsApart_of_ofLiterals (ne : tokens.trueValue ≠ tokens.falseValue)
    (decided : s ≠ .indeterminate)
    (found : (ofLiterals tokens).viewChecked tokens layout options m
        (literalsLayout tokens layout) s =
      .ok ((ofLiterals tokens).shownAs tokens 0 s)) :
    tokens.SetsApart m options.caseSensitive s := by
  rw [view_checkBox (hasCheckBox_ofLiterals tokens layout), Except.ok.injEq, shownAs] at found
  -- each of the rows is among those found exactly if it is among those that show the state
  have agrees (v : Value) (row : Nat) (place : (ofLiterals tokens).rows[row]? = some (.unchanged [v])) :
      m.passes options.caseSensitive (tokens.tokenFor s) v = (!v.isNull && tokens.stateOf v == s) :=
    eq_of_map_filter_liveRows found (x := (.unchanged [v], row))
      (mem_liveRows_iff.mpr ⟨place, RowState.noConfusion⟩)
  have literal (token : String) (row : Nat)
      (place : (ofLiterals tokens).rows[row]? = some (.unchanged [.string token])) :
      m.passes options.caseSensitive (tokens.tokenFor s) (.string token) =
        decide (token = tokens.tokenFor s) := by
    rw [agrees _ row place, Bool.eq_iff_iff, decide_eq_true_iff]
    simpa [Value.isNull, Value.text] using BooleanTokens.stateOf_eq_iff ne decided
  have different := BooleanTokens.tokenFor_opposite_ne ne decided
  have null := agrees .null 0 rfl
  cases s with
  | checked =>
    exact ⟨(literal _ 1 rfl).trans (decide_eq_true rfl),
      (literal _ 2 rfl).trans (decide_eq_false different), null⟩
  | unchecked =>
    exact ⟨(literal _ 2 rfl).trans (decide_eq_true rfl),
      (literal _ 1 rfl).trans (decide_eq_false different), null⟩
  | indeterminate => exact absurd rfl decided

end Table

/-- **A search by a check box finds the cells that show its state exactly if its literal sets the state
apart.** It can always be resolved and applied. A literal sets its state apart if it passes itself as a
search text, and neither the other literal nor a null cell passes it; every plain term does that is not
the same to the comparison as the other literal. For any other literal there is a table with a column
of check boxes where the search finds other rows. -/
theorem checkBox_search (tokens : BooleanTokens) (m : SearchMarks) (options : FilterOptions)
    (s : CheckState) (ne : tokens.trueValue ≠ tokens.falseValue) (decided : s ≠ .indeterminate) :
    (∀ (t : Table) (layout : LayoutOptions) (index : Nat) (l : ColumnLayout),
      t.HasCheckBox tokens layout index l →
      (∃ rows, t.viewChecked tokens layout options m l s = .ok rows) ∧
      (tokens.SetsApart m options.caseSensitive s →
        t.viewChecked tokens layout options m l s = .ok (t.shownAs tokens index s))) ∧
    (¬ tokens.SetsApart m options.caseSensitive s →
      ∃ (t : Table) (layout : LayoutOptions) (index : Nat) (l : ColumnLayout),
        t.HasCheckBox tokens layout index l ∧
        t.viewChecked tokens layout options m l s ≠ .ok (t.shownAs tokens index s)) ∧
    (m.IsPlain (tokens.tokenFor s).toList →
      folded options.caseSensitive (tokens.tokenFor s.opposite).toList ≠
        folded options.caseSensitive (tokens.tokenFor s).toList →
      tokens.SetsApart m options.caseSensitive s) := by
  refine ⟨?_, ?_, ?_⟩
  · intro t layout index l h
    constructor
    · exact ⟨_, Table.view_checkBox h⟩
    · intro apart
      exact Table.viewChecked_of_setsApart h ne decided apart
  · intro not
    refine ⟨.ofLiterals tokens, {}, 0, _, Table.hasCheckBox_ofLiterals tokens {}, ?_⟩
    intro found
    exact not (Table.setsApart_of_ofLiterals ne decided found)
  · intro plain different
    exact plain.setsApart different

/-- The usual literals, in a table with a cell of each, a null cell and a deleted row; and literals that
differ in case. -/
theorem checkBox_search_five_rows :
    let t : Table := ⟨"Staff", [.named "NAME" .string, .named "ACTIVE" .string],
      [.unchanged [.string "Ann", .string "TRUE"], .added [.string "Bob", .string "FALSE"],
        .deleted [.string "Cid", .string "FALSE"], .unchanged [.string "Dan", .null],
        .modified [.null, .null] [.null, .string "FALSE"]]⟩
    let tokens : BooleanTokens := {}
    let letters : BooleanTokens := ⟨"Y", "y", "y"⟩
    let m : SearchMarks := {}
    let options : FilterOptions := {}
    let l := (Column.named "ACTIVE" .string).layout .booleanEnum tokens {}
    (tokens.trueValue ≠ tokens.falseValue ∧ letters.trueValue ≠ letters.falseValue ∧
      CheckState.unchecked ≠ .indeterminate ∧ t.HasCheckBox tokens {} 1 l ∧
      m.IsPlain "FALSE".toList ∧ folded false "TRUE".toList ≠ folded false "FALSE".toList ∧
      ¬ letters.SetsApart m false .unchecked ∧ t.shownAs tokens 1 .unchecked = [1, 4]) ∧
    t.viewChecked tokens {} options m l .unchecked = .ok (t.shownAs tokens 1 .unchecked) ∧
    ∃ (t : Table) (layout : LayoutOptions) (index : Nat) (l : ColumnLayout),
      t.HasCheckBox letters layout index l ∧
      t.viewChecked letters layout options m l .unchecked ≠ .ok (t.shownAs letters index .unchecked) := by
  intro t tokens letters m options l
  have ne : tokens.trueValue ≠ tokens.falseValue := by decide
  have ne' : letters.trueValue ≠ letters.falseValue := by decide
  have decided : CheckState.unchecked ≠ .indeterminate := by decide
  have checkBox : t.HasCheckBox tokens {} 1 l := ⟨by decide, by decide +kernel, rfl⟩
  have plain : m.IsPlain "FALSE".toList :=
    ⟨by decide, by simp [Trimmed, isBlank, inRanges, blankRanges], by decide, by decide, by simp,
      by decide⟩
  have different : folded false "TRUE".toList ≠ folded false "FALSE".toList := by decide +kernel
  have alike : ¬ letters.SetsApart m false .unchecked := by
    intro apart
    have passes : m.passes false "y" (.string "Y") = true := by decide +kernel
    exact absurd (passes.symm.trans apart.other) (by decide)
  have shown : t.shownAs tokens 1 .unchecked = [1, 4] := by decide +kernel
  obtain ⟨view, -, literal⟩ := checkBox_search tokens m options .unchecked ne decided
  obtain ⟨-, other, -⟩ := checkBox_search letters m options .unchecked ne' decided
  exact ⟨⟨ne, ne', decided, checkBox, plain, different, alike, shown⟩,
    (view t {} 1 l checkBox).2 (literal plain different), other alike⟩

/-- **A check box need not find what it shows.** Where case does not count, one of two literals that
differ in case finds both, and an empty literal finds all rows. -/
theorem checkBox_search_not_exact :
    let letters : BooleanTokens := ⟨"Y", "y", "y"⟩
    let mark : BooleanTokens := ⟨"X", "", ""⟩
    let t := Table.ofLiterals letters
    let l := Table.literalsLayout letters {}
    let t' := Table.ofLiterals mark
    let l' := Table.literalsLayout mark {}
    (letters.trueValue ≠ letters.falseValue ∧ t.HasCheckBox letters {} 0 l ∧
      t.viewChecked letters {} {} {} l .checked = .ok [1, 2] ∧
      t.shownAs letters 0 .checked = [1]) ∧
    (mark.trueValue ≠ mark.falseValue ∧ t'.HasCheckBox mark {} 0 l' ∧
      t'.viewChecked mark {} {} {} l' .unchecked = .ok [0, 1, 2] ∧
      t'.shownAs mark 0 .unchecked = [2]) := by
  intro letters mark t l t' l'
  exact ⟨⟨by decide, Table.hasCheckBox_ofLiterals letters {}, by decide +kernel, by decide +kernel⟩,
    ⟨by decide, Table.hasCheckBox_ofLiterals mark {}, by decide +kernel, by decide +kernel⟩⟩

end DataGrid
