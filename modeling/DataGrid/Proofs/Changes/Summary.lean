import DataGrid.Proofs.Changes.Reduction

/-!
# What a summary of changes says

A summary is counted row by row while the set of changes is made: each row that is judged makes some
figures go up by one. So the figures could drift from the rows that are saved. They do not:

* `sift_eq`: the one pass that judges and counts keeps the rows that are worth saving and counts what
  counting alone does, so a set of changes and its summary may be taken apart.
* `Balanced.foldl_count`: every row that is a candidate is counted once more, as kept or as left out.
* `changeSummary_saved`: of each state as many rows are counted as kept as there are in the set of
  changes.
* **`changesWithSummary_balances`**: so the summary balances, and agrees with the set of changes.
-/

namespace DataGrid

namespace ChangeSummary

/-! ## One pass -/

/-- To judge a row is to see whether it is worth saving, and to count it. -/
theorem judge_eq (s : ChangeSummary) (r : Row) : s.judge r = (r.isWorthSaving, s.count r) := by
  unfold judge count Row.isWorthSaving Row.isVacuous
  cases state : r.state with
  | unchanged | deleted => rfl
  | added => cases r.isBlank <;> rfl
  | modified => cases r.isReallyModified <;> rfl

/-- One pass over some rows keeps those that are worth saving and counts all of them. -/
theorem sift_eq (s : ChangeSummary) (rows : List Row) :
    s.sift rows = (rows.filter Row.isWorthSaving, rows.foldl count s) := by
  induction rows generalizing s with
  | nil => rfl
  | cons r rows ih => simp only [sift, judge_eq, ih, List.filter_cons, List.foldl_cons]

/-! ## Balance -/

/-- Whether the candidates are just the rows that are counted as kept or as left out. -/
def Balanced (s : ChangeSummary) : Prop :=
  s.candidates = s.added + s.modified + s.deleted + s.prunedBlank + s.prunedUnchanged

/-- Counting one more row keeps the balance. -/
theorem Balanced.count {s : ChangeSummary} (h : s.Balanced) (r : Row) : (s.count r).Balanced := by
  unfold Balanced at *
  unfold ChangeSummary.count
  cases r.state with
  | unchanged => exact h
  | added => cases r.isBlank <;> simp <;> omega
  | modified => cases r.isReallyModified <;> simp <;> omega
  | deleted => simp only; omega

/-- Counting some rows keeps the balance. -/
theorem Balanced.foldl_count {s : ChangeSummary} (h : s.Balanced) (rows : List Row) :
    (rows.foldl ChangeSummary.count s).Balanced := by
  induction rows generalizing s with
  | nil => exact h
  | cons r rows ih => exact ih (h.count r)

/-! ## Kept rows by state -/

/-- The number of rows in a state that are counted as kept. -/
def saved : RowState → ChangeSummary → Nat
  | .unchanged, _ => 0
  | .added, s => s.added
  | .modified, s => s.modified
  | .deleted, s => s.deleted

/-- The figure for a state goes up by one at the rows that are in this state and kept. -/
theorem saved_count (state : RowState) (s : ChangeSummary) (r : Row) :
    saved state (s.count r) = saved state s + if r.state == state && r.isWorthSaving then 1 else 0 := by
  unfold count Row.isWorthSaving
  cases r.state with
  | unchanged => simp
  | added => cases r.isBlank <;> cases state <;> rfl
  | modified => cases r.isReallyModified <;> cases state <;> rfl
  | deleted => cases state <;> rfl

end ChangeSummary

namespace Table

variable {t : Table} {name : String}

/-- The pass gives the set of changes and its summary. -/
theorem changesWithSummary_eq (t : Table) (name : String) :
    t.changesWithSummary name = (t.changes name, t.changeSummary) := by
  have rows : t.changes name =
      clearConstraints { t with name, rows := t.rows.filter Row.isWorthSaving } := by
    rw [changes, project, keepRows_eq_filter]
  rw [changesWithSummary, ChangeSummary.sift_eq, rows, changeSummary]

/-- The figure for a state is the number of rows in this state in the set of changes. -/
theorem changeSummary_saved (t : Table) (name : String) (state : RowState) :
    t.changeSummary.saved state = (t.changes name).rows.countP (·.state == state) := by
  have start : ChangeSummary.saved state {} = 0 := by cases state <;> rfl
  have counted := ChangeSummary.foldl_count (ChangeSummary.saved_count state) t.rows {}
  rw [start, Nat.zero_add] at counted
  rw [rows_changes, List.countP_filter]
  exact counted

/-- **The summary of a set of changes balances.** Taken in one pass with the changes, it is that of the
table. Its candidates are the rows of the table that are not unchanged, and each of them is counted once
more: as new, modified or deleted, or as blank or without a difference and so left out. The rows that are
counted as kept are those of the set of changes, in number and in each state. -/
theorem changesWithSummary_balances (t : Table) (name : String) :
    let kept := (t.changesWithSummary name).1
    let s := (t.changesWithSummary name).2
    kept = t.changes name ∧ s = t.changeSummary ∧
    s.candidates = t.changeCount ∧
    s.candidates = s.added + s.modified + s.deleted + s.prunedBlank + s.prunedUnchanged ∧
    s.kept = kept.rowCount ∧
    s.added = kept.rows.countP (·.state == .added) ∧
    s.modified = kept.rows.countP (·.state == .modified) ∧
    s.deleted = kept.rows.countP (·.state == .deleted) := by
  rw [changesWithSummary_eq]
  have start : ChangeSummary.Balanced {} := rfl
  have balanced : t.changeSummary.Balanced := start.foldl_count t.rows
  have kept : t.changeSummary.kept = (t.changes name).rowCount := by
    rw [changeSummary_kept, rowCount_changes]
  exact ⟨rfl, rfl, changeSummary_candidates t, balanced, kept, changeSummary_saved t name .added,
    changeSummary_saved t name .modified, changeSummary_saved t name .deleted⟩

end Table

end DataGrid
