import DataGrid.Proofs.Changes.Reduction
import DataGrid.Proofs.Table.Reachable
import DataGrid.Proofs.Value.Sameness
import Mathlib.Data.List.Forall2

/-!
# Undoing a deletion

A loaded row that is deleted and restored ought to be the row that it was. Restoring decides whether
a row is unchanged by comparing it with its baseline through `Value.equals`, so what becomes of the
row depends on how far this comparison agrees with the two others that are made of it.

* An untouched row is compared with itself, and a cell that is not-a-number does not equal itself. The
  table is back as it was exactly if the row has no such cell
  (**`restoreRow_deleteRow_unchanged`**); else the row is taken for a modified one.
* A modified row has to be saved if it shows something else than its baseline, and two zeros of
  different sign are equal but show `0` and `-0`. The table is back as it was, with the same set of
  changes, exactly unless nothing but signs of zeros was edited
  (**`restoreRow_deleteRow_modified`**); else the edit is lost.

Both come from one computation: `restore_markDeleted` for the row and `exists_restoreRow_deleteRow` for
the table. That the row held a baseline exactly if it was modified is known of every table that can be
reached (`Reachable.inStep`).
-/

namespace DataGrid

/-! ## Cells one by one -/

/-- Comparing lists place by place asks for the relation at each place. -/
theorem isEqv_iff_forall₂ {α : Type} (p : α → α → Bool) (xs ys : List α) :
    xs.isEqv ys p = true ↔ List.Forall₂ (fun x y => p x y = true) xs ys := by
  induction xs generalizing ys with
  | nil => cases ys <;> simp
  | cons x xs ih =>
    cases ys with
    | nil => simp
    | cons y ys => rw [List.isEqv, Bool.and_eq_true, ih, List.forall₂_cons]

/-- The cells of a row equal themselves exactly if none of them is not-a-number. -/
theorem isEqv_self_iff (values : List Value) :
    values.isEqv values Value.equals = true ↔ .float .nan ∉ values := by
  rw [isEqv_iff_forall₂, List.forall₂_same]
  constructor
  · exact fun h nan => (Value.equals_self_iff _).mp (h _ nan) rfl
  · exact fun h v hv => (Value.equals_self_iff v).mpr fun nan => h (nan ▸ hv)

/-! ## One row -/

namespace Row

variable {r : Row}

/-- Whether each cell of a row is what it was at the baseline, and not not-a-number, or is a zero and
was a zero. -/
def DiffersInZeroSigns (r : Row) : Prop :=
  ∃ values, r.baseline = some values ∧
    List.Forall₂ (fun v w => (v = w ∧ v ≠ .float .nan) ∨ (v.IsZero ∧ w.IsZero)) values r.current

/-- A deletion takes a baseline where there is none, so undoing it compares with the values that a
rejection would bring back. -/
theorem restore_markDeleted (r : Row) :
    r.markDeleted.restore =
      if (r.baseline.getD r.current).isEqv r.current Value.equals then .unchanged r.current
      else .modified (r.baseline.getD r.current) r.current := by
  unfold restore markDeleted equalsBaseline
  rw [if_pos rfl]
  rfl

/-- An untouched row in step has no baseline. -/
theorem InStep.eq_unchanged (h : r.InStep) (untouched : r.state = .unchanged) :
    r = .unchanged r.current := by
  obtain ⟨state, current, baseline⟩ := r
  have none : baseline = .none := h.baseline_eq_none (.inl untouched)
  subst none untouched
  rfl

/-- A modified row in step has one. -/
theorem InStep.exists_eq_modified (h : r.InStep) (edited : r.state = .modified) :
    ∃ values, r = .modified values r.current := by
  obtain ⟨values, hb⟩ := h.exists_baseline (.inl edited)
  obtain ⟨state, current, baseline⟩ := r
  subst hb edited
  exact ⟨values, rfl⟩

/-- An untouched row comes back untouched if none of its cells is not-a-number. -/
theorem restore_markDeleted_unchanged (values : List Value) :
    (Row.unchanged values).markDeleted.restore =
      if .float .nan ∉ values then .unchanged values else .modified values values := by
  rw [restore_markDeleted]
  simp only [unchanged, Option.getD_none, isEqv_self_iff]

/-- A modified row differs from its baseline in signs of zeros at most exactly if the two are equal cell
by cell. -/
theorem differsInZeroSigns_modified_iff (values current : List Value) :
    (Row.modified values current).DiffersInZeroSigns ↔
      values.isEqv current Value.equals = true := by
  simp only [DiffersInZeroSigns, modified, Option.some.injEq, exists_eq_left', isEqv_iff_forall₂,
    Value.equals_iff]

/-- A modified row comes back unless it differs from its baseline in signs of zeros at most. -/
theorem restore_markDeleted_of_not {values current : List Value}
    (h : ¬ (Row.modified values current).DiffersInZeroSigns) :
    (Row.modified values current).markDeleted.restore = .modified values current := by
  rw [differsInZeroSigns_modified_iff] at h
  rw [restore_markDeleted]
  exact if_neg h

/-- A modified row that differs from its baseline in signs of zeros at most comes back as an untouched
one. -/
theorem restore_markDeleted_of_differsInZeroSigns {values current : List Value}
    (h : (Row.modified values current).DiffersInZeroSigns) :
    (Row.modified values current).markDeleted.restore = .unchanged current := by
  rw [differsInZeroSigns_modified_iff] at h
  rw [restore_markDeleted]
  exact if_pos h

end Row

/-! ## One row of a table -/

namespace Table

variable {t : Table} {k : Nat} {r : Row}

/-- Of two rows that are put at one place the second remains. -/
theorem setRow_setRow (t : Table) (k : Nat) (r s : Row) : (t.setRow k r).setRow k s = t.setRow k s := by
  simp [setRow]

/-- A row that is put at a place stands there. -/
theorem getElem?_setRow_self (found : t.rows[k]? = some r) (s : Row) :
    (t.setRow k s).rows[k]? = some s :=
  (getElem?_setRow_iff found).mpr (.inl ⟨rfl, rfl⟩)

/-- Putting the row at a place that is there changes nothing. -/
theorem setRow_self (found : t.rows[k]? = some r) : t.setRow k r = t := by
  obtain ⟨lt, rfl⟩ := List.getElem?_eq_some_iff.mp found
  simp [setRow]

/-- Putting a row at a place changes nothing exactly if it is the row that was there. -/
theorem setRow_eq_self_iff (found : t.rows[k]? = some r) (s : Row) : t.setRow k s = t ↔ s = r := by
  constructor
  · intro h
    have here := getElem?_setRow_self found s
    rw [h, found] at here
    exact (Option.some.inj here).symm
  · rintro rfl
    exact setRow_self found

/-- A test counts as many rows after one is replaced exactly if it finds the new one like the old. -/
theorem countP_setRow_eq_iff (found : t.rows[k]? = some r) (p : Row → Bool) (s : Row) :
    (t.setRow k s).rows.countP p = t.rows.countP p ↔ p s = p r := by
  obtain ⟨lt, rfl⟩ := List.getElem?_eq_some_iff.mp found
  have counted := List.countP_set (p := p) (a := s) lt
  have le := List.boole_getElem_le_countP (p := p) lt
  show (t.rows.set k s).countP p = _ ↔ _
  rw [counted]
  cases hs : p s <;> cases hr : p t.rows[k] <;>
    simp only [hr, if_true, if_false, Bool.false_eq_true, reduceCtorEq, iff_true, iff_false] at le ⊢ <;>
    omega

/-- A loaded row can be deleted and then restored, and no other row is touched. -/
theorem exists_restoreRow_deleteRow (found : t.rows[k]? = some r)
    (loaded : r.state = .unchanged ∨ r.state = .modified) :
    ∃ deleted, t.deleteRow k = .ok deleted ∧
      deleted.restoreRow k = .ok (t.setRow k r.markDeleted.restore) := by
  refine ⟨t.setRow k r.markDeleted, apply_eq_ok_iff.mpr (.markRow found loaded), ?_⟩
  exact restoreRow_eq_ok.mpr ⟨_, getElem?_setRow_self found _, t.setRow_setRow k _ _⟩

/-! ## Untouched rows -/

/-- **Undoing the deletion of an untouched row gives back the table exactly if no cell of the row is
not-a-number.** If one is, the row is taken for a modified one and counted as a change. -/
theorem restoreRow_deleteRow_unchanged (reached : t.Reachable) (found : t.rows[k]? = some r)
    (untouched : r.state = .unchanged) :
    ∃ deleted restored, t.deleteRow k = .ok deleted ∧ deleted.restoreRow k = .ok restored ∧
      (restored = t ↔ .float .nan ∉ r.current) ∧
      (restored.changeCount = t.changeCount ↔ .float .nan ∉ r.current) ∧
      (.float .nan ∈ r.current →
        restored = t.setRow k (.modified r.current r.current) ∧ restored.hasChanges = true) := by
  obtain ⟨deleted, hd, hr⟩ := exists_restoreRow_deleteRow found (.inl untouched)
  refine ⟨deleted, _, hd, hr, ?_⟩
  have row := (reached.inStep r (List.mem_of_getElem? found)).eq_unchanged untouched
  generalize hv : r.current = values at row
  subst row
  rw [Row.restore_markDeleted_unchanged]
  by_cases nan : .float .nan ∈ values
  · rw [if_neg (not_not.mpr nan)]
    refine ⟨?_, ?_, fun _ => ⟨rfl, ?_⟩⟩
    · rw [setRow_eq_self_iff found]
      simp [nan, Row.modified, Row.unchanged]
    · rw [changeCount, changeCount, countP_setRow_eq_iff found]
      simp [nan, Row.modified, Row.unchanged, RowState.isChange]
    · exact List.any_eq_true.mpr ⟨_, List.mem_of_getElem? (getElem?_setRow_self found _), rfl⟩
  · rw [if_pos nan, setRow_self found]
    simp [nan]

/-- A row with a negative zero and bytes, beside one that is not-a-number. -/
theorem restoreRow_deleteRow_unchanged_zero :
    let t₀ : Table := ⟨"Sums", [.named "SUM" .number, .named "SCAN" .binary], []⟩
    let t := t₀.run [.loadRow [.float .nan, .null], .loadRow [.float (.ranked true 0), .bytes [7]]]
    let r : Row := .unchanged [.float (.ranked true 0), .bytes [7]]
    (t.Reachable ∧ t.rows[1]? = some r ∧ r.state = .unchanged) ∧
      ∃ deleted restored, t.deleteRow 1 = .ok deleted ∧ deleted.restoreRow 1 = .ok restored ∧
        (restored = t ↔ .float .nan ∉ r.current) ∧
        (restored.changeCount = t.changeCount ↔ .float .nan ∉ r.current) ∧
        (.float .nan ∈ r.current →
          restored = t.setRow 1 (.modified r.current r.current) ∧ restored.hasChanges = true) := by
  intro t₀ t r
  have reached : t.Reachable := reachable_run (by decide) (by simp [Edit.rowsIn])
  have found : t.rows[1]? = some r := by decide
  exact ⟨⟨reached, found, rfl⟩, restoreRow_deleteRow_unchanged reached found rfl⟩

/-- Deleting and restoring a row that is not-a-number leaves a change where there was none. -/
theorem restoreRow_deleteRow_not_a_number :
    let t₀ : Table := ⟨"Sums", [.named "SUM" .number], []⟩
    let t := t₀.run [.loadRow [.float .nan]]
    t.Reachable ∧ t.rows[0]? = some (.unchanged [.float .nan]) ∧
      ∃ deleted restored, t.deleteRow 0 = .ok deleted ∧ deleted.restoreRow 0 = .ok restored ∧
        restored.rows[0]? = some (.modified [.float .nan] [.float .nan]) ∧
        t.changeCount = 0 ∧ restored.changeCount = 1 ∧
        t.hasChanges = false ∧ restored.hasChanges = true := by
  intro t₀ t
  have reached : t.Reachable := reachable_run (by decide) (by simp [Edit.rowsIn])
  exact ⟨reached, by decide, t.setRow 0 (.deleted [.float .nan]),
    t.setRow 0 (.modified [.float .nan] [.float .nan]), by decide⟩

/-! ## Modified rows -/

/-- **Undoing the deletion of a modified row that has to be saved gives back the table, and the same
set of changes, exactly unless nothing but signs of zeros was edited.** In that case the row is taken
for an unchanged one. -/
theorem restoreRow_deleteRow_modified (reached : t.Reachable) (found : t.rows[k]? = some r)
    (edited : r.state = .modified) (differs : r.isReallyModified = true) :
    ∃ deleted restored, t.deleteRow k = .ok deleted ∧ deleted.restoreRow k = .ok restored ∧
      (restored = t ↔ ¬ r.DiffersInZeroSigns) ∧
      (∀ name, restored.changes name = t.changes name ↔ ¬ r.DiffersInZeroSigns) ∧
      (r.DiffersInZeroSigns → restored = t.setRow k (.unchanged r.current)) := by
  obtain ⟨deleted, hd, hr⟩ := exists_restoreRow_deleteRow found (.inr edited)
  refine ⟨deleted, _, hd, hr, ?_⟩
  obtain ⟨values, row⟩ :=
    (reached.inStep r (List.mem_of_getElem? found)).exists_eq_modified edited
  generalize hc : r.current = current at row
  subst row
  by_cases zeros : (Row.modified values current).DiffersInZeroSigns
  · rw [Row.restore_markDeleted_of_differsInZeroSigns zeros]
    have worth : (Row.modified values current).isWorthSaving = true := differs
    -- The row had to be saved and as an unchanged one does not, which tells both the tables and the sets
    -- of changes apart.
    have lost : (Row.unchanged current).isWorthSaving ≠ (Row.modified values current).isWorthSaving := by
      rw [worth]
      exact Bool.false_ne_true
    refine ⟨iff_of_false ?_ (not_not.mpr zeros), fun name => iff_of_false ?_ (not_not.mpr zeros),
      fun _ => rfl⟩
    · rw [setRow_eq_self_iff found]
      rintro same
      exact lost (congrArg Row.isWorthSaving same)
    · intro same
      have rows := congrArg rowCount same
      rw [rowCount_changes, rowCount_changes, countP_setRow_eq_iff found] at rows
      exact lost rows
  · rw [Row.restore_markDeleted_of_not zeros, setRow_self found]
    simp [zeros]

/-- A zero that got another sign, in a row where a text was edited too. -/
theorem restoreRow_deleteRow_modified_two_cells :
    let t₀ : Table := ⟨"Sums", [.named "SUM" .number, .named "NOTE" .string], []⟩
    let t := t₀.run [.loadRow [.float (.ranked false 0), .null],
      .setValue 0 "SUM" (.float (.ranked true 0)), .setValue 0 "NOTE" (.string "")]
    let r : Row := .modified [.float (.ranked false 0), .null] [.float (.ranked true 0), .string ""]
    (t.Reachable ∧ t.rows[0]? = some r ∧ r.state = .modified ∧ r.isReallyModified = true) ∧
      ∃ deleted restored, t.deleteRow 0 = .ok deleted ∧ deleted.restoreRow 0 = .ok restored ∧
        (restored = t ↔ ¬ r.DiffersInZeroSigns) ∧
        (∀ name, restored.changes name = t.changes name ↔ ¬ r.DiffersInZeroSigns) ∧
        (r.DiffersInZeroSigns → restored = t.setRow 0 (.unchanged r.current)) := by
  intro t₀ t r
  have reached : t.Reachable := reachable_run (by decide) (by simp [Edit.rowsIn])
  have found : t.rows[0]? = some r := by decide
  have differs : r.isReallyModified = true := by decide
  exact ⟨⟨reached, found, rfl, differs⟩, restoreRow_deleteRow_modified reached found rfl differs⟩

/-- A zero is set to the other zero. Deleting and restoring the row loses this edit. -/
theorem restoreRow_deleteRow_loses_sign :
    let t₀ : Table := ⟨"Sums", [.named "SUM" .number], []⟩
    let t := t₀.run [.loadRow [.float (.ranked false 0)], .setValue 0 "SUM" (.float (.ranked true 0))]
    let r : Row := .modified [.float (.ranked false 0)] [.float (.ranked true 0)]
    t.Reachable ∧ t.rows[0]? = some r ∧ r.isReallyModified = true ∧
      ∃ deleted restored, t.deleteRow 0 = .ok deleted ∧ deleted.restoreRow 0 = .ok restored ∧
        restored.rows[0]? = some (.unchanged [.float (.ranked true 0)]) ∧
        (t.changes "C").rows = [r] ∧ (restored.changes "C").rows = [] := by
  intro t₀ t r
  have reached : t.Reachable := reachable_run (by decide) (by simp [Edit.rowsIn])
  exact ⟨reached, by decide, by decide, t.setRow 0 r.markDeleted,
    t.setRow 0 (.unchanged [.float (.ranked true 0)]), by decide⟩

end Table

end DataGrid
