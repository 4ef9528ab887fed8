import DataGrid.Proofs.Classification.Evidence
import DataGrid.Proofs.Table.Steps

/-!
# Using a check box

Setting a check box writes the literal for its state into a cell, and the column is classified anew from
what stands in it then. The literals for checked and unchecked are evidence for a check box, so the
column stays what it was. The literal for the third state is looked for in no cell: unless it is one of
the other two, writing it may take the check box away.

* **`Table.ShowsElsewhere`**: what a column shows in the other rows.
* `shows_edit_iff`: after an edit a column shows what it shows in the other rows, and the value that was
  written.
* `looksBoolean_edit_iff`: so a column that looks like a check box goes on doing so exactly if the value
  that is written is a literal, or one is enough and another row has it.
* **`keepsCheckBox_iff`**: what this comes to for the three states.
* `takes_checkBox_away`: a third literal of its own takes the check box away.
-/

namespace DataGrid

/-- The cells of a row after an edit. -/
theorem Row.current_edit (r : Row) (index : Nat) (v : Value) :
    (r.edit index v).current = r.current.set index v := by
  unfold edit
  split <;> rfl

namespace Table

/-- Whether a value that is not null stands in a column, in another row than the one at an index. -/
def ShowsElsewhere (t : Table) (row index : Nat) (v : Value) : Prop :=
  ∃ (other : Nat) (r : Row),
    other ≠ row ∧ t.rows[other]? = some r ∧ r.cell? index = some v ∧ v ≠ .null

variable {t : Table} {options : ClassifierOptions} {row index : Nat} {r : Row} {v w : Value}

/-- A column shows what stands in it in the row at some place. -/
theorem shows_iff_getElem? :
    t.Shows index w ↔
      ∃ (k : Nat) (r : Row), t.rows[k]? = some r ∧ r.cell? index = some w ∧ w ≠ .null := by
  simp only [Shows, List.mem_iff_getElem?]
  constructor
  · rintro ⟨r, ⟨k, found⟩, shown⟩
    exact ⟨k, r, found, shown⟩
  · rintro ⟨k, r, found, shown⟩
    exact ⟨r, ⟨k, found⟩, shown⟩

/-- What stands in another row stands in the column. -/
theorem ShowsElsewhere.shows (h : t.ShowsElsewhere row index w) : t.Shows index w := by
  obtain ⟨other, r, -, found, shown⟩ := h
  exact shows_iff_getElem?.mpr ⟨other, r, found, shown⟩

/-- What a column shows after an edit of one of its cells. -/
theorem shows_edit_iff (found : t.rows[row]? = some r) (wide : index < r.current.length)
    (shown : v ≠ .null) :
    (t.setRow row (r.edit index v)).Shows index w ↔ w = v ∨ t.ShowsElsewhere row index w := by
  have written : (r.edit index v).cell? index = some v := by
    rw [Row.cell?, Row.current_edit, List.getElem?_set_self wide]
  rw [shows_iff_getElem?]
  constructor
  · rintro ⟨k, s, place, cell, shown⟩
    rcases (getElem?_setRow_iff found).mp place with ⟨-, rfl⟩ | ⟨ne, place⟩
    · exact .inl (Option.some.inj (cell.symm.trans written))
    · exact .inr ⟨k, s, ne.symm, place, cell, shown⟩
  · rintro (rfl | ⟨k, s, ne, place, cell, shown⟩)
    · exact ⟨row, _, (getElem?_setRow_iff found).mpr (.inl ⟨rfl, rfl⟩), written, shown⟩
    · exact ⟨k, s, (getElem?_setRow_iff found).mpr (.inr ⟨ne.symm, place⟩), cell, shown⟩

/-- A column that looks like a check box goes on doing so if a literal is written into it, or if one is
enough and stands in another row. -/
theorem looksBoolean_edit_iff (looks : t.LooksBoolean options index)
    (found : t.rows[row]? = some r) (wide : index < r.current.length) (shown : v ≠ .null) :
    (t.setRow row (r.edit index v)).LooksBoolean options index ↔
      v.IsLiteral options.tokens ∨ options.evidence = .anyLiteral ∧
        ∃ w, t.ShowsElsewhere row index w ∧ w.IsLiteral options.tokens := by
  obtain ⟨-, evidence⟩ := looks
  have some : ∃ w, (t.setRow row (r.edit index v)).Shows index w :=
    ⟨v, (shows_edit_iff found wide shown).mpr (.inl rfl)⟩
  rw [LooksBoolean, and_iff_right some]
  cases rule : options.evidence with
  | allLiterals =>
    -- The other rows show literals only, since the column looked like a check box before.
    simp only [rule] at evidence
    simp only [shows_edit_iff found wide shown, reduceCtorEq, false_and, or_false]
    constructor
    · intro all
      exact all v (.inl rfl)
    · rintro literal w (rfl | elsewhere)
      · exact literal
      · exact evidence w elsewhere.shows
  | anyLiteral =>
    simp only [shows_edit_iff found wide shown, true_and, or_and_right, exists_or, exists_eq_left]

/-- The literals for checked and unchecked are literals of the column. -/
theorem isLiteral_tokenFor_iff {tokens : BooleanTokens} {s : CheckState} :
    (Value.string (tokens.tokenFor s)).IsLiteral tokens ↔
      s ≠ .indeterminate ∨ (Value.string tokens.indeterminateValue).IsLiteral tokens := by
  cases s with
  | checked => exact iff_of_true (.inl rfl) (.inl CheckState.noConfusion)
  | unchecked => exact iff_of_true (.inr rfl) (.inl CheckState.noConfusion)
  | indeterminate => simp [BooleanTokens.tokenFor]

/-- **Using a check box keeps it, but for a third literal of its own.** A state can be set in every row
that is not deleted and has a cell in the column. The column then is a check-box column as before exactly
if the state is checked or unchecked, or the literal for the third state is one of the other two, or one
literal is enough and stands in another row. -/
theorem keepsCheckBox_iff (distinct : (t.columns.map (·.name)).Nodup) {column : Column}
    (place : t.columns[index]? = some column)
    (box : (classify t options).get? column.name = some .booleanEnum)
    (found : t.rows[row]? = some r) (live : r.state ≠ .deleted) (s : CheckState) :
    let written := t.setValue row column.name (.string (options.tokens.tokenFor s))
    ((∃ t', written = .ok t') ↔ index < r.current.length) ∧
    ∀ t', written = .ok t' →
      ((classify t' options).get? column.name = some .booleanEnum ↔
        s ≠ .indeterminate ∨
        (Value.string options.tokens.indeterminateValue).IsLiteral options.tokens ∨
        options.evidence = .anyLiteral ∧
          ∃ w, t.ShowsElsewhere row index w ∧ w.IsLiteral options.tokens) := by
  intro written
  have name : t.columnIndex? column.name = some index := columnIndex?_of_nodup distinct place
  have accepted (t' : Table) : written = .ok t' ↔ index < r.current.length ∧
      t.setRow row (r.edit index (.string (options.tokens.tokenFor s))) = t' := by
    simp only [written, setValue_eq_ok, name, found, Option.some.injEq]
    constructor
    · rintro ⟨_, _, rfl, rfl, -, wide, same⟩
      exact ⟨wide, same⟩
    · rintro ⟨wide, same⟩
      exact ⟨index, r, rfl, rfl, live, wide, same⟩
  constructor
  · simp [accepted]
  · intro t' ok
    obtain ⟨wide, rfl⟩ := (accepted t').mp ok
    -- The column keeps its name and type, so only the texts of its cells are at stake.
    rw [get?_classify distinct place, Option.some.injEq, classifyColumn_eq_booleanEnum_iff] at box
    obtain ⟨string, looks⟩ := box
    let t' := t.setRow row (r.edit index (.string (options.tokens.tokenFor s)))
    have kind : (classify t' options).get? column.name =
        some (classifyColumn t' options index column) := get?_classify distinct place
    rw [kind, Option.some.injEq, classifyColumn_eq_booleanEnum_iff, and_iff_right string,
      looksBoolean_edit_iff looks found wide Value.noConfusion, isLiteral_tokenFor_iff, or_assoc]

/-- A third literal that goes into a column where another row has one of the other two. -/
theorem keepsCheckBox_iff_three_rows :
    let t : Table := ⟨"Flags", [.named "FLAG" .string],
      [.unchanged [.string "TRUE"], .modified [.null] [.string "n/a"], .added [.decimal "FALSE"]]⟩
    let options : ClassifierOptions := ⟨⟨"TRUE", "FALSE", "UNKNOWN"⟩, .anyLiteral⟩
    let written := t.setValue 0 "FLAG" (.string (options.tokens.tokenFor .indeterminate))
    ((t.columns.map (·.name)).Nodup ∧ t.columns[0]? = some (.named "FLAG" .string) ∧
      (classify t options).get? "FLAG" = some .booleanEnum ∧
      t.rows[0]? = some (.unchanged [.string "TRUE"]) ∧ RowState.unchanged ≠ .deleted) ∧
    ∃ t', written = .ok t' ∧ (classify t' options).get? "FLAG" = some .booleanEnum := by
  intro t options written
  have distinct : (t.columns.map (·.name)).Nodup := by decide
  have box : (classify t options).get? "FLAG" = some .booleanEnum := by decide
  have place : t.columns[0]? = some (.named "FLAG" .string) := rfl
  have found : t.rows[0]? = some (.unchanged [.string "TRUE"]) := rfl
  have live : RowState.unchanged ≠ .deleted := by decide
  have elsewhere : t.ShowsElsewhere 0 0 (.decimal "FALSE") :=
    ⟨2, .added [.decimal "FALSE"], by decide, rfl, rfl, Value.noConfusion⟩
  obtain ⟨accepted, keeps⟩ := keepsCheckBox_iff distinct place box found live .indeterminate
  obtain ⟨t', ok⟩ := accepted.mpr Nat.zero_lt_one
  have kept := (keeps t' ok).mpr (.inr (.inr ⟨rfl, _, elsewhere, .inr rfl⟩))
  exact ⟨⟨distinct, place, box, found, live⟩, t', ok, kept⟩

/-- **Using a check box may take it away**, whichever evidence is asked for: the third state of the only
check box is written as a literal of its own, and the column is one of texts after it. -/
theorem takes_checkBox_away :
    let t : Table := ⟨"Flags", [.named "FLAG" .string], [.unchanged [.string "TRUE"]]⟩
    let tokens : BooleanTokens := ⟨"TRUE", "FALSE", "UNKNOWN"⟩
    let t' := t.setRow 0 (.modified [.string "TRUE"] [.string "UNKNOWN"])
    (t.columns.map (·.name)).Nodup ∧
    (∀ e, (classify t ⟨tokens, e⟩).get? "FLAG" = some .booleanEnum) ∧
    t.setValue 0 "FLAG" (.string (tokens.tokenFor .indeterminate)) = .ok t' ∧
    ∀ e, (classify t' ⟨tokens, e⟩).get? "FLAG" = some .string := by
  intro t tokens t'
  refine ⟨by decide, fun e => ?_, by decide, fun e => ?_⟩
  · cases e <;> decide
  · cases e <;> decide

end Table

end DataGrid
