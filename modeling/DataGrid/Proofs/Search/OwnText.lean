import DataGrid.Proofs.Search.Numeric
import DataGrid.Proofs.Search.View
import DataGrid.Proofs.Value.Numerals

/-!
# Searching a numeric column for the text of a cell

Who copies the text of a cell into the search box of its column looks for this cell. The text is cut
at the separator, trimmed, looked through for an operator and a wildcard and read as a number, while the
number in the cell is taken as it is.

* `read_startsWithOperator`: no text that starts with an operator is a number, so the text of a cell with a
  number in it has none.
* `Filter.ofEntries_ownText`: the search asks for equality with the text of the cell.
* **`isMatch_ownText`**: it finds the cell if there is a finite number in it, in whichever form and however
  it is written. All that is needed is that neither the separator nor the wildcard occurs in the text.
* `resolve_ownText_notFinite`: a number that is not finite cannot be searched for.
-/

namespace DataGrid

open Text

/-! ## Texts of numbers as terms -/

/-- No number starts with an operator. -/
theorem Binary64.read_startsWithOperator {s : List Char} (starts : Term.StartsWithOperator s) :
    read s = .error .malformed := by
  obtain ⟨spelling, listed, rest, rfl⟩ := starts
  simp only [Term.spellings, List.mem_cons, List.not_mem_nil, or_false] at listed
  obtain rfl | rfl | rfl | rfl | rfl | rfl := listed
  all_goals rfl

section

variable {m : SearchMarks} {v : Value} {x : Binary64}

/-- The text of a cell that holds a number is a single term, which asks for equality with this text. -/
theorem Value.parse_ownText (number : v.asNumber? = some x) (whole : m.separator ∉ v.text.toList)
    (noPattern : m.wildcard ∉ v.text.toList) :
    m.terms v.text = [trimmed v.text] ∧
      Term.parse m.wildcard (trimmed v.text) = (.equal, trimmed v.text) := by
  have read : Binary64.read (trim v.text.toList) = .ok x := Value.read_trim_text number
  have nonempty : trim v.text.toList ≠ [] := by
    intro nil
    rw [nil] at read
    cases read
  have noOperator : ¬ Term.StartsWithOperator (trim v.text.toList) := by
    intro starts
    rw [Binary64.read_startsWithOperator starts] at read
    cases read
  refine ⟨m.terms_of_not_mem whole nonempty, ?_⟩
  rw [Term.parse_eq_iff, trimmed, String.toList_ofList, Term.parseChars, (trim_spec _).trim_eq,
    Term.parseTrimmed_of_not_startsWithOperator noOperator,
    if_neg fun h => noPattern (mem_of_mem_trim h)]

/-- A search for the text of a cell with a number in it asks for equality with this text. -/
theorem Filter.ofEntries_ownText {e : SearchEntry} (own : e.text = v.text)
    (number : v.asNumber? = some x) (whole : m.separator ∉ v.text.toList)
    (noPattern : m.wildcard ∉ v.text.toList) :
    Filter.ofEntries m [e] = ⟨[⟨e.column, .equal, trimmed v.text⟩], m.wildcard⟩ := by
  obtain ⟨terms, parsed⟩ := Value.parse_ownText number whole noPattern
  rw [ofEntries_eq, List.flatMap_singleton, SearchEntry.comparisons, own, terms, List.map_singleton]
  simp only [parsed]

/-- The trimmed text of a cell is read as the number in the cell, if this is finite. -/
theorem readOperand_ownText (number : v.asNumber? = some x) :
    readOperand (trimmed v.text) = if x.isFinite then .ok x else .error .notFinite := by
  rw [readOperand, trimmed, String.toList_ofList, Value.read_trim_text number]

end

/-! ## The search -/

section

variable {t : Table} {kinds : ColumnKinds} {row index : Nat} {r : Row} {v : Value} {x : Binary64}
  {m : SearchMarks} {e : SearchEntry}

/-- **Searching a numeric column for the text of a cell finds the row of this cell.** If the cell holds a
finite number, as an integer, a binary number or a numeral, and neither the separator nor the wildcard
occurs in its text, then a search for this text can be resolved and the row passes it; so the row is in
view unless it is deleted. -/
theorem isMatch_ownText (options : FilterOptions)
    (column : t.findKind? kinds e.column = some (index, .numeric)) (found : t.rows[row]? = some r)
    (cell : r.cell? index = some v) (number : v.asNumber? = some x) (finite : x.isFinite = true)
    (own : e.text = v.text) (whole : m.separator ∉ v.text.toList)
    (noPattern : m.wildcard ∉ v.text.toList) :
    ∃ f, (Filter.ofEntries m [e]).resolve t kinds options = .ok f ∧ f.isMatch t row = .ok true ∧
      ∀ rows, f.apply t = .ok rows → r.state ≠ .deleted → row ∈ rows := by
  have read : readOperand (trimmed v.text) = .ok x := by
    rw [readOperand_ownText number, if_pos finite]
  obtain ⟨p, place⟩ : ∃ p, x.place? = some p := by
    cases x with
    | nan => cases finite
    | ranked negative rank => exact ⟨_, Binary64.place?_ranked negative rank⟩
  obtain ⟨f, passes, resolved, matched, decides⟩ :=
    decides_of_places (o := .equal) options m.wildcard column found cell (by decide) read number place
      place
  -- The operand and the number in the cell are one and the same, so both have the same place.
  obtain rfl : passes = true := decides.mpr (by rw [compare_eq_iff_eq.mpr rfl]; rfl)
  refine ⟨f, ?_, matched, fun rows applied live => ?_⟩
  · rw [Filter.ofEntries_ownText own number whole noPattern]
    exact resolved
  · obtain ⟨r', found', passed⟩ := ResolvedFilter.isMatch_eq_ok_iff.mp matched
    obtain rfl := Option.some.inj (found.symm.trans found')
    exact (ResolvedFilter.mem_of_apply_iff applied).mpr ⟨r, found, live, passed⟩

/-- A numeral with blanks, a sign and an exponent, and an integer with no number of its own, in a grid where
the comma separates terms. -/
theorem isMatch_ownText_two_rows :
    let m : SearchMarks := ⟨',', '*'⟩
    let v : Value := .string " +12e-1 "
    let w : Value := .integer 9007199254740993
    let x : Binary64 := .ofRatio false 12 10
    let y : Binary64 := .ofInt 9007199254740993
    let r : Row := .added [.null, v]
    let s : Row := .modified [.null, .null] [.null, w]
    let t : Table := ⟨"Orders", [.named "NAME" .string, .named "SUM" .number], [r, s]⟩
    let e : SearchEntry := { column := "SUM", kind := .numeric, text := v.text }
    let d : SearchEntry := { column := "SUM", kind := .numeric, text := w.text }
    (t.findKind? .empty "SUM" = some (1, .numeric) ∧ t.rows[0]? = some r ∧ t.rows[1]? = some s ∧
      r.cell? 1 = some v ∧ s.cell? 1 = some w ∧ v.asNumber? = some x ∧ w.asNumber? = some y ∧
      x.isFinite = true ∧ y.isFinite = true ∧ m.separator ∉ v.text.toList ∧
      m.wildcard ∉ v.text.toList ∧ m.separator ∉ w.text.toList ∧ m.wildcard ∉ w.text.toList) ∧
    (∃ f, (Filter.ofEntries m [e]).resolve t .empty {} = .ok f ∧ f.isMatch t 0 = .ok true ∧
      ∀ rows, f.apply t = .ok rows → r.state ≠ .deleted → 0 ∈ rows) ∧
    ∃ f, (Filter.ofEntries m [d]).resolve t .empty {} = .ok f ∧ f.isMatch t 1 = .ok true ∧
      ∀ rows, f.apply t = .ok rows → s.state ≠ .deleted → 1 ∈ rows := by
  intro m v w x y r s t e d
  have column : t.findKind? .empty "SUM" = some (1, .numeric) := by decide +kernel
  have numberV : v.asNumber? = some x := by decide +kernel
  have numberW : w.asNumber? = some y := by decide +kernel
  have finiteX : x.isFinite = true := by decide +kernel
  have finiteY : y.isFinite = true := by decide +kernel
  have plainV : m.separator ∉ v.text.toList ∧ m.wildcard ∉ v.text.toList := by decide +kernel
  have plainW : m.separator ∉ w.text.toList ∧ m.wildcard ∉ w.text.toList := by decide +kernel
  exact ⟨⟨column, rfl, rfl, rfl, rfl, numberV, numberW, finiteX, finiteY, plainV.1, plainV.2, plainW.1,
      plainW.2⟩,
    isMatch_ownText {} column rfl rfl numberV finiteX rfl plainV.1 plainV.2,
    isMatch_ownText {} column rfl rfl numberW finiteY rfl plainW.1 plainW.2⟩

/-- A number that is not finite cannot be searched for by its text. -/
theorem resolve_ownText_notFinite (options : FilterOptions)
    (column : t.findKind? kinds e.column = some (index, .numeric)) (number : v.asNumber? = some x)
    (notFinite : x.isFinite = false) (own : e.text = v.text) (whole : m.separator ∉ v.text.toList)
    (noPattern : m.wildcard ∉ v.text.toList) :
    (Filter.ofEntries m [e]).resolve t kinds options =
      .error (.invalidOperand e.column .equal (trimmed v.text) .notFinite) := by
  rw [Filter.ofEntries_ownText own number whole noPattern]
  refine resolve_error column (by decide) ?_
  rw [readOperand_ownText number, notFinite]
  rfl

end

end DataGrid
