import DataGrid.Proofs.Table.Session
import DataGrid.Proofs.Value.Sameness
import Mathlib.Data.List.Forall2

/-!
# A rejection takes a session back

However a user has edited, deleted, restored and added rows of a pristine table, rejecting the changes
brings back the rows that were loaded (**`rejectChanges_run`**): all of them, in their order, without a
history, and with the same values in their cells. The same is not always identical. A cell that was set
from one zero to the other equals its baseline, so a deletion undone drops the baseline and keeps the
new zero.
-/

namespace DataGrid

/-- Lists of cells that are the same one by one. -/
abbrev SameValues : List Value → List Value → Prop := List.Forall₂ Value.Same

/-- The cells of a row are the same as themselves. -/
theorem sameValues_refl (values : List Value) : SameValues values values :=
  List.forall₂_same.mpr fun v _ => v.same_refl

/-- Cells that are the same remain so where one is exchanged for an equal one. -/
theorem sameValues_respectsEquals : RespectsEquals SameValues := by
  intro loaded values current h same
  induction h generalizing current with
  | nil =>
    cases current with
    | nil => exact .nil
    | cons => cases same
  | cons h _ ih =>
    cases current with
    | nil => cases same
    | cons v current =>
      rw [List.isEqv, Bool.and_eq_true] at same
      exact .cons (Value.same_of_same_of_equals h same.1) (ih _ same.2)

namespace Table

variable {R : List Value → List Value → Prop} {t₀ t : Table}

/-- The rows that outlive a rejection are the loaded ones. -/
theorem Follows.filter_rows (h : t₀.Follows R t) :
    t.rows.filter (·.state ≠ .added) = t.rows.take t₀.rowCount := by
  conv_lhs => rw [← List.take_append_drop t₀.rowCount t.rows, List.filter_append]
  have front : (t.rows.take t₀.rowCount).filter (·.state ≠ .added) = t.rows.take t₀.rowCount := by
    refine List.filter_eq_self.mpr fun r hr => ?_
    obtain ⟨k, hk, rfl⟩ := List.mem_take_iff_getElem.mp hr
    have lt : k < t₀.rowCount := Nat.lt_of_lt_of_le hk (Nat.min_le_left _ _)
    simpa using (h.row lt (List.getElem?_eq_getElem _)).loaded
  have back : (t.rows.drop t₀.rowCount).filter (·.state ≠ .added) = [] := by
    refine List.filter_eq_nil_iff.mpr fun r hr => ?_
    obtain ⟨k, hk, rfl⟩ := List.mem_drop_iff_getElem.mp hr
    simpa using h.new _ _ (Nat.le_add_right _ k) (List.getElem?_eq_getElem _)
  rw [front, back, List.append_nil]

/-- A rejection brings every loaded row back to its values. -/
theorem Follows.rejectChanges (h : t₀.Follows R t) :
    List.Forall₂ (fun r₀ r => r.state = .unchanged ∧ r.baseline = none ∧ R r₀.current r.current)
      t₀.rows t.rejectChanges.rows := by
  have rows : t.rejectChanges.rows = (t.rows.take t₀.rowCount).map Row.reject := by
    rw [← h.filter_rows]
    rfl
  have le : t₀.rows.length ≤ t.rows.length := h.rowCount_le
  rw [rows, List.forall₂_iff_get]
  have length : ((t.rows.take t₀.rowCount).map Row.reject).length = t₀.rows.length := by
    rw [List.length_map, List.length_take]
    exact Nat.min_eq_left le
  refine ⟨length.symm, fun k h₁ h₂ => ?_⟩
  have follows := h.row h₁ (List.getElem?_eq_getElem (Nat.lt_of_lt_of_le h₁ le))
  simpa [Row.reject] using follows.values

/-- **Rejecting the changes after a session gives back the table that was loaded**: its name, its
columns, and its rows in their order, none with a history and each with the same values. -/
theorem rejectChanges_run {edits : List Edit} (pristine : t₀.IsPristine)
    (user : ∀ e ∈ edits, e.isByUser = true) :
    (t₀.run edits).rejectChanges.name = t₀.name ∧
      (t₀.run edits).rejectChanges.columns = t₀.columns ∧
      List.Forall₂
        (fun r₀ r => r.state = .unchanged ∧ r.baseline = none ∧
          List.Forall₂ Value.Same r₀.current r.current)
        t₀.rows (t₀.run edits).rejectChanges.rows := by
  have follows : t₀.Follows SameValues (t₀.run edits) :=
    follows_run sameValues_refl pristine user fun _ _ _ => sameValues_respectsEquals
  exact ⟨follows.name, follows.columns, follows.rejectChanges⟩

/-- Edits with equal numbers, deletions, restorations and a row that comes and goes. -/
theorem rejectChanges_run_two_rows :
    let t₀ : Table := ⟨"Sums", [.named "SUM" .number, .named "NOTE" .string],
      [.unchanged [.float (.ofInt 0), .float .nan], .unchanged [.null, .string "x"]]⟩
    let edits : List Edit := [.addBlankRow, .setValue 0 "SUM" (.float (.ranked true 0)),
      .deleteRow 0, .restoreRow 0, .deleteRow 2, .setValue 1 "NOTE" .null, .restoreRow 7,
      .deleteRow 1, .addRow [.null], .addRow [.integer 1, .boolean true], .setValue 1 "SUM" .null]
    (t₀.IsPristine ∧ ∀ e ∈ edits, e.isByUser = true) ∧
      (t₀.run edits).rejectChanges.name = t₀.name ∧
      (t₀.run edits).rejectChanges.columns = t₀.columns ∧
      List.Forall₂
        (fun r₀ r => r.state = .unchanged ∧ r.baseline = none ∧
          List.Forall₂ Value.Same r₀.current r.current)
        t₀.rows (t₀.run edits).rejectChanges.rows := by
  intro t₀ edits
  have pristine : t₀.IsPristine := by decide
  have user : ∀ e ∈ edits, e.isByUser = true := by decide
  exact ⟨⟨pristine, user⟩, rejectChanges_run pristine user⟩

-- A zero that was set to the other zero stays so when the row is deleted and restored.
example : (Row.modified [.float (.ranked false 0)] [.float (.ranked true 0)]).markDeleted.restore =
    .unchanged [.float (.ranked true 0)] := by decide

end Table

end DataGrid
