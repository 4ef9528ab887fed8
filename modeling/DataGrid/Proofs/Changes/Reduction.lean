import DataGrid.Changes
import DataGrid.Proofs.Table.Projection
import DataGrid.Proofs.Value.Sameness

/-!
# What a set of changes keeps

A set of changes is what is left of a table when all rows are taken out that hold nothing to save.
**`Row.HoldsChange`** says which rows do, with one case for each reason to save a row; of a modified
row it takes one cell that shows something else, or a baseline that is missing or of another width.

* `isWorthSaving_iff`: the test that the set of changes is made with finds exactly these rows.
* `foldl_count`: a figure of a summary that goes up by one at some rows counts these rows. All figures
  are of this kind, so each is the number of rows of its sort (`changeSummary_kept`,
  `changeSummary_prunedBlank` and the others).
* **`changes_stable`**: the set of changes holds exactly the rows that hold a change, in order and as
  they are, and taking the changes of it once more leaves nothing out.
-/

namespace DataGrid

/-! ## One row -/

/-- Whether a cell shows something else than another: one is null and the other is not, both hold bytes
and not the same, or their texts are not the same. -/
inductive Value.ShowsOther (v w : Value) : Prop
  | null (one : v.isNull ≠ w.isNull)
  | bytes (a b : List UInt8) (left : v = .bytes a) (right : w = .bytes b) (ne : a ≠ b)
  | text (ne : v.text ≠ w.text)

/-- The comparison of cells finds out whether one shows something else than the other. -/
theorem Value.differs_iff_showsOther (v w : Value) : v.differs w = true ↔ v.ShowsOther w := by
  rw [differs_iff]
  constructor
  · rintro (null | text)
    · exact .null null
    · exact .text text
  · rintro (null | ⟨a, b, rfl, rfl, ne⟩ | text)
    · exact .inl null
    · exact .inr fun same => ne (text_bytes_inj same)
    · exact .inr text

/-- Whether there is something to save in a row. -/
inductive Row.HoldsChange (r : Row) : Prop
  | deleted (state : r.state = .deleted)
  | filled (v : Value) (state : r.state = .added) (mem : v ∈ r.current) (shown : v.isBlank = false)
  | unfounded (state : r.state = .modified) (none : r.baseline = none)
  | resized (values : List Value) (state : r.state = .modified) (baseline : r.baseline = some values)
      (width : r.current.length ≠ values.length)
  | edited (values : List Value) (column : Nat) (v w : Value) (state : r.state = .modified)
      (baseline : r.baseline = some values) (now : r.current[column]? = some v)
      (before : values[column]? = some w) (other : v.ShowsOther w)

namespace Row

variable {r : Row}

/-- A row without a baseline counts as modified. -/
theorem isReallyModified_of_none (none : r.baseline = none) : r.isReallyModified = true := by
  rw [isReallyModified, none]

/-- A modified row is kept if its baseline has another width or one of its cells shows something
else. -/
theorem isReallyModified_iff_of_some {values : List Value} (baseline : r.baseline = some values) :
    r.isReallyModified = true ↔ r.current.length ≠ values.length ∨
      ∃ (column : Nat) (v w : Value),
        r.current[column]? = some v ∧ values[column]? = some w ∧ v.ShowsOther w := by
  simp only [isReallyModified, baseline, Bool.or_eq_true, bne_iff_ne, List.any_eq_true]
  apply or_congr_right
  constructor
  · rintro ⟨⟨v, w⟩, mem, differs⟩
    obtain ⟨column, found⟩ := List.mem_iff_getElem?.mp mem
    obtain ⟨now, before⟩ := List.getElem?_zip_eq_some.mp found
    exact ⟨column, v, w, now, before, (v.differs_iff_showsOther w).mp differs⟩
  · rintro ⟨column, v, w, now, before, other⟩
    have found : (r.current.zip values)[column]? = some (v, w) :=
      List.getElem?_zip_eq_some.mpr ⟨now, before⟩
    exact ⟨(v, w), List.mem_of_getElem? found, (v.differs_iff_showsOther w).mpr other⟩

/-- A row that holds a change is kept. -/
theorem isWorthSaving_of_holdsChange (h : r.HoldsChange) : r.isWorthSaving = true := by
  cases h with
  | deleted state => simp [isWorthSaving, state]
  | filled v state mem shown =>
    simp only [isWorthSaving, state, isBlank, Bool.not_eq_true', List.all_eq_false]
    exact ⟨v, mem, by simp [shown]⟩
  | unfounded state none => simp [isWorthSaving, state, isReallyModified_of_none none]
  | resized values state baseline width =>
    simp only [isWorthSaving, state]
    exact (isReallyModified_iff_of_some baseline).mpr (.inl width)
  | edited values column v w state baseline now before other =>
    simp only [isWorthSaving, state]
    exact (isReallyModified_iff_of_some baseline).mpr (.inr ⟨column, v, w, now, before, other⟩)

/-- A row that is kept holds a change. -/
theorem holdsChange_of_isWorthSaving (h : r.isWorthSaving = true) : r.HoldsChange := by
  unfold isWorthSaving at h
  split at h
  · cases h
  · rename_i state
    obtain ⟨v, mem, shown⟩ : ∃ v ∈ r.current, v.isBlank = false := by simpa [isBlank] using h
    exact .filled v state mem shown
  · rename_i state
    cases baseline : r.baseline with
    | none => exact .unfounded state baseline
    | some values =>
      rcases (isReallyModified_iff_of_some baseline).mp h with width | ⟨column, v, w, now, before, other⟩
      · exact .resized values state baseline width
      · exact .edited values column v w state baseline now before other
  · exact .deleted ‹_›

/-- **The rows that are kept are just those that hold a change.** -/
theorem isWorthSaving_iff : r.isWorthSaving = true ↔ r.HoldsChange :=
  ⟨holdsChange_of_isWorthSaving, isWorthSaving_of_holdsChange⟩

instance (r : Row) : Decidable r.HoldsChange := decidable_of_iff _ isWorthSaving_iff

/-- Only rows that are not unchanged are kept. -/
theorem isChange_of_isWorthSaving (h : r.isWorthSaving = true) : r.state.isChange = true := by
  cases hs : r.state with
  | unchanged => simp [isWorthSaving, hs] at h
  | added | modified | deleted => rfl

end Row

/-! ## Counting -/

namespace ChangeSummary

/-- A figure that goes up by one at the rows of some sort counts them. -/
theorem foldl_count {figure : ChangeSummary → Nat} {sort : Row → Bool}
    (step : ∀ s r, figure (s.count r) = figure s + if sort r then 1 else 0) (rows : List Row)
    (s : ChangeSummary) : figure (rows.foldl count s) = figure s + rows.countP sort := by
  induction rows generalizing s with
  | nil => rfl
  | cons r rows ih =>
    rw [List.foldl_cons, ih, step, List.countP_cons]
    omega

end ChangeSummary

namespace Table

variable (t : Table)

/-- The candidates are the rows in a state other than unchanged. -/
theorem changeSummary_candidates : t.changeSummary.candidates = t.changeCount := by
  have step (s : ChangeSummary) (r : Row) :
      (s.count r).candidates = s.candidates + if r.state.isChange then 1 else 0 := by
    unfold ChangeSummary.count
    cases r.state <;> simp [RowState.isChange, apply_ite ChangeSummary.candidates]
  simpa [changeSummary, changeCount] using ChangeSummary.foldl_count step t.rows {}

/-- The rows that are counted as added, modified or deleted are together those that are kept. -/
theorem changeSummary_kept : t.changeSummary.kept = t.rows.countP Row.isWorthSaving := by
  have step (s : ChangeSummary) (r : Row) :
      (s.count r).kept = s.kept + if r.isWorthSaving then 1 else 0 := by
    unfold ChangeSummary.count Row.isWorthSaving ChangeSummary.kept
    cases r.state with
    | unchanged => rfl
    | added => cases r.isBlank <;> grind
    | modified => cases r.isReallyModified <;> grind
    | deleted => rfl
  simpa [changeSummary, ChangeSummary.kept] using ChangeSummary.foldl_count step t.rows {}

/-- The rows counted as left out for being blank are the new rows without contents. -/
theorem changeSummary_prunedBlank : t.changeSummary.prunedBlank = t.rows.countP Row.isVacuous := by
  have step (s : ChangeSummary) (r : Row) :
      (s.count r).prunedBlank = s.prunedBlank + if r.isVacuous then 1 else 0 := by
    unfold ChangeSummary.count Row.isVacuous
    cases r.state <;> cases r.isBlank <;> simp [apply_ite ChangeSummary.prunedBlank]
  simpa [changeSummary] using ChangeSummary.foldl_count step t.rows {}

/-- The rows counted as left out for being unchanged are the modified rows that show nothing else than
their baselines. -/
theorem changeSummary_prunedUnchanged : t.changeSummary.prunedUnchanged =
    t.rows.countP fun r => r.state == .modified && !r.isReallyModified := by
  have step (s : ChangeSummary) (r : Row) : (s.count r).prunedUnchanged =
      s.prunedUnchanged + if r.state == .modified && !r.isReallyModified then 1 else 0 := by
    unfold ChangeSummary.count
    cases r.state <;> cases r.isReallyModified <;>
      simp [apply_ite ChangeSummary.prunedUnchanged]
  simpa [changeSummary] using ChangeSummary.foldl_count step t.rows {}

/-! ## The set of changes -/

variable {t : Table} {name : String}

/-- The rows of a set of changes are the rows that are kept, in order. -/
theorem rows_changes : (t.changes name).rows = t.rows.filter Row.isWorthSaving :=
  keepRows_eq_filter Row.isWorthSaving 0 t.rows

/-- A set of changes has as many rows as are kept. -/
theorem rowCount_changes (t : Table) (name : String) :
    (t.changes name).rowCount = t.rows.countP Row.isWorthSaving := by
  rw [rowCount, rows_changes, List.countP_eq_length_filter]

/-- Every row of a set of changes would be kept again. -/
theorem isWorthSaving_of_mem_changes {r : Row} (h : r ∈ (t.changes name).rows) :
    r.isWorthSaving = true := by
  rw [rows_changes] at h
  exact (List.mem_filter.mp h).2

/-- The changes of a set of changes are those that were taken first. -/
theorem changes_changes (t : Table) (first second : String) :
    (t.changes first).changes second = t.changes second := by
  have columns : ((t.changes first).changes second).columns = (t.changes second).columns := by
    simp [changes, clearConstraints, project, Column.withoutConstraints]
  have rows : ((t.changes first).changes second).rows = (t.changes second).rows := by
    rw [rows_changes, rows_changes, rows_changes, List.filter_filter]
    simp only [Bool.and_self]
  exact Table.mk.injEq .. |>.mpr ⟨rfl, columns, rows⟩

/-- All rows of a set of changes are candidates and kept. -/
theorem changeSummary_changes (t : Table) (name : String) :
    (t.changes name).changeSummary.prunedBlank = 0 ∧
      (t.changes name).changeSummary.prunedUnchanged = 0 ∧
      (t.changes name).changeSummary.candidates = (t.changes name).rowCount ∧
      (t.changes name).changeSummary.kept = (t.changes name).rowCount := by
  rw [changeSummary_prunedBlank, changeSummary_prunedUnchanged, changeSummary_candidates,
    changeSummary_kept]
  refine ⟨List.countP_eq_zero.mpr ?_, List.countP_eq_zero.mpr ?_, List.countP_eq_length.mpr ?_,
    List.countP_eq_length.mpr fun r => isWorthSaving_of_mem_changes⟩
  all_goals
    intro r mem
    have worth := isWorthSaving_of_mem_changes mem
  · unfold Row.isWorthSaving at worth
    cases hs : r.state <;> simp_all [Row.isVacuous]
  · unfold Row.isWorthSaving at worth
    cases hs : r.state <;> simp_all
  · exact Row.isChange_of_isWorthSaving worth

/-- **A set of changes holds exactly the rows that hold a change, and is a set of changes itself.** Its
columns are those of the table without constraints, its rows are those of the table that hold a change,
in order. Taking its changes gives the same again, with nothing left out. -/
theorem changes_stable (t : Table) (name : String) :
    (t.changes name).name = name ∧
    (t.changes name).columns =
      t.columns.map (fun c => { c with primaryKey := false, mandatory := false }) ∧
    (t.changes name).rows = t.rows.filter (fun r => r.HoldsChange) ∧
    (t.changes name).changes name = t.changes name ∧
    (t.changes name).changeSummary.prunedBlank = 0 ∧
    (t.changes name).changeSummary.prunedUnchanged = 0 ∧
    (t.changes name).changeSummary.candidates = ((t.changes name).changes name).rowCount ∧
    (t.changes name).changeSummary.kept = ((t.changes name).changes name).rowCount := by
  have rows : (t.changes name).rows = t.rows.filter (fun r => r.HoldsChange) := by
    rw [rows_changes]
    exact List.filter_congr fun r _ => Bool.eq_iff_iff.mpr (by simp [Row.isWorthSaving_iff])
  rw [changes_changes]
  exact ⟨rfl, rfl, rows, rfl, changeSummary_changes t name⟩

end Table

end DataGrid
