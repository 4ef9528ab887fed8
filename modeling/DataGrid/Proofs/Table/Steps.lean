import DataGrid.Proofs.Outcome
import DataGrid.Proofs.Table.Projection
import Mathlib.Data.List.Induction

/-!
# The steps of a table

What an edit can do to a table is said once, as a relation: **`Table.Step t e t'`** has one case for
each effect of an accepted edit, with the conditions under which the edit has it.

* `apply_eq_ok_iff`: an edit is accepted with some result exactly if the relation holds, so the
  cases are complete and none is too many.
* `Step.origin`: a row that is there after a step was there before, was handed in, is new, or is
  what one of the operations on rows makes of a row that was there before.
* `attempt_cases`: an edit that is tried makes a step, or there is no step for it and the table stays
  as it was.
* `run_invariant`: what holds at the start and is kept by each edit of a series, given the edits
  before it, holds at the end.

Every invariant of the tables that can be reached comes from these by cases on the step.
-/

namespace DataGrid

/-- Whether the values of a row, current and baseline, are as many as a number of columns. -/
structure Row.Fits (r : Row) (width : Nat) : Prop where
  current : r.current.length = width
  baseline : ∀ values ∈ r.baseline, values.length = width

instance (r : Row) (width : Nat) : Decidable (r.Fits width) :=
  decidable_of_iff (r.current.length = width ∧ ∀ values ∈ r.baseline, values.length = width)
    ⟨fun h => ⟨h.1, h.2⟩, fun h => ⟨h.1, h.2⟩⟩

namespace Table

/-- What an accepted edit makes of a table. -/
inductive Step (t : Table) : Edit → Table → Prop
  | setName (name : String) : Step t (.setName name) (t.setName name)
  | pushRow {row : Row} (fits : row.Fits t.width) :
      Step t (.pushRow row) { t with rows := t.rows ++ [row] }
  /-- The baselines of the rows are not looked at. -/
  | setRows {rows : List Row} (fit : ∀ r ∈ rows, r.current.length = t.width) :
      Step t (.setRows rows) { t with rows }
  | loadRow {values : List Value} (fits : values.length = t.width) :
      Step t (.loadRow values) { t with rows := t.rows ++ [.unchanged values] }
  | addRow {values : List Value} (fits : values.length = t.width) :
      Step t (.addRow values) { t with rows := t.rows ++ [.added values] }
  | addBlankRow : Step t .addBlankRow t.addBlankRow
  | setValue {row i : Nat} {column : String} {v : Value} {r : Row}
      (index : t.columnIndex? column = some i) (found : t.rows[row]? = some r)
      (live : r.state ≠ .deleted) (cell : i < r.current.length) :
      Step t (.setValue row column v) (t.setRow row (r.edit i v))
  /-- A new row goes at once. -/
  | dropRow {row : Nat} {r : Row} (found : t.rows[row]? = some r) (new : r.state = .added) :
      Step t (.deleteRow row) { t with rows := t.rows.eraseIdx row }
  | markRow {row : Nat} {r : Row} (found : t.rows[row]? = some r)
      (loaded : r.state = .unchanged ∨ r.state = .modified) :
      Step t (.deleteRow row) (t.setRow row r.markDeleted)
  | keepDeleted {row : Nat} {r : Row} (found : t.rows[row]? = some r) (gone : r.state = .deleted) :
      Step t (.deleteRow row) t
  | restoreRow {row : Nat} {r : Row} (found : t.rows[row]? = some r) :
      Step t (.restoreRow row) (t.setRow row r.restore)
  | acceptChanges : Step t .acceptChanges t.acceptChanges
  | rejectChanges : Step t .rejectChanges t.rejectChanges
  | clearConstraints : Step t .clearConstraints t.clearConstraints
  | project (name : String) (keep : Nat → Row → Bool) :
      Step t (.project name keep) (t.project name keep)

/-- Where a row comes from that is there after an edit. -/
inductive Origin (t : Table) : Edit → Row → Prop
  | kept {e : Edit} {r : Row} (mem : r ∈ t.rows) : Origin t e r
  | pushed {r : Row} (fits : r.Fits t.width) : Origin t (.pushRow r) r
  | replaced {rows : List Row} {r : Row} (mem : r ∈ rows) (fits : r.current.length = t.width) :
      Origin t (.setRows rows) r
  | loaded {e : Edit} {values : List Value} (fits : values.length = t.width) :
      Origin t e (.unchanged values)
  | added {e : Edit} {values : List Value} (fits : values.length = t.width) :
      Origin t e (.added values)
  | edited {e : Edit} {r : Row} (mem : r ∈ t.rows) (live : r.state ≠ .deleted) (i : Nat)
      (v : Value) : Origin t e (r.edit i v)
  | marked {e : Edit} {r : Row} (mem : r ∈ t.rows)
      (loaded : r.state = .unchanged ∨ r.state = .modified) : Origin t e r.markDeleted
  | restored {e : Edit} {r : Row} (mem : r ∈ t.rows) : Origin t e r.restore
  | accepted {e : Edit} {r : Row} (mem : r ∈ t.rows) : Origin t e r.accept
  | rejected {e : Edit} {r : Row} (mem : r ∈ t.rows) : Origin t e r.reject

/-! ## When an operation succeeds -/

/-- No name is repeated exactly if the names are different and none of them was there before. -/
theorem firstRepeated_eq_none_iff {seen names : List String} :
    firstRepeated seen names = none ↔ names.Nodup ∧ ∀ n ∈ names, n ∉ seen := by
  induction names generalizing seen with
  | nil => simp [firstRepeated]
  | cons n names ih =>
    rw [firstRepeated, List.nodup_cons, List.forall_mem_cons]
    by_cases h : n ∈ seen
    · simp [h]
    · rw [if_neg h, ih]
      constructor
      · rintro ⟨nodup, fresh⟩
        have absent : n ∉ names := fun hn => fresh n hn List.mem_cons_self
        exact ⟨⟨absent, nodup⟩, h, fun m hm hs => fresh m hm (List.mem_cons_of_mem n hs)⟩
      · rintro ⟨⟨absent, nodup⟩, -, fresh⟩
        refine ⟨nodup, fun m hm => ?_⟩
        rw [List.mem_cons, not_or]
        exact ⟨fun eq => absent (eq ▸ hm), fresh m hm⟩

/-- A table is created exactly if its columns have different names, and then it has no rows. -/
theorem create_eq_ok {name : String} {columns : List Column} {t : Table} :
    create name columns = .ok t ↔
      (columns.map (·.name)).Nodup ∧ { name, columns, rows := [] } = t := by
  have distinct : (columns.map (·.name)).Nodup ↔ firstRepeated [] (columns.map (·.name)) = none := by
    simp [firstRepeated_eq_none_iff]
  rw [distinct, create]
  cases firstRepeated [] (columns.map (·.name)) <;> simp

/-- A column that is found is one of the table. -/
theorem columnIndex?_lt {t : Table} {column : String} {i : Nat}
    (h : t.columnIndex? column = some i) : i < t.width :=
  (List.findIdx?_eq_some_iff_getElem.mp h).1

/-- A column that the table has is found. -/
theorem exists_columnIndex?_of_mem {t : Table} {column : String}
    (known : column ∈ t.columns.map (·.name)) : ∃ i, t.columnIndex? column = some i := by
  obtain ⟨c, mem, named⟩ := List.mem_map.mp known
  apply Option.isSome_iff_exists.mp
  rw [columnIndex?, List.findIdx?_isSome]
  exact List.any_eq_true.mpr ⟨c, mem, beq_iff_eq.mpr named⟩

/-- A column that is asked for is given at its place if it is there. -/
theorem requireColumn_eq_ok {t : Table} {column : String} {i : Nat} :
    t.requireColumn column = .ok i ↔ t.columnIndex? column = some i := by
  unfold requireColumn
  split <;> simp [*]

/-- A row that is asked for is given if it is there. -/
theorem requireRow_eq_ok {t : Table} {row : Nat} {r : Row} :
    t.requireRow row = .ok r ↔ t.rows[row]? = some r := by
  unfold requireRow
  split <;> simp [*]

/-- A width is accepted exactly if it is the number of columns. -/
theorem checkWidth_eq_ok {t : Table} {n : Nat} {u : Unit} :
    t.checkWidth n = .ok u ↔ n = t.width := by
  unfold checkWidth
  split <;> simp [*]

/-- A row is taken in exactly if its values fit, now and at its baseline, and it comes last. -/
theorem pushRow_eq_ok {t t' : Table} {r : Row} :
    t.pushRow r = .ok t' ↔ r.Fits t.width ∧ { t with rows := t.rows ++ [r] } = t' := by
  have fits : r.Fits t.width ↔
      r.current.length = t.width ∧ ∀ values ∈ r.baseline, values.length = t.width :=
    ⟨fun h => ⟨h.1, h.2⟩, fun h => ⟨h.1, h.2⟩⟩
  unfold pushRow
  rw [fits]
  cases r.baseline with
  | none =>
    simp only [bind_eq_ok, checkWidth_eq_ok, pure_eq_ok]
    simp
  | some values =>
    simp only [bind_eq_ok, checkWidth_eq_ok, pure_eq_ok]
    simp [and_assoc]

/-- Rows are accepted in one go if the current values of each are as many as the columns. -/
theorem forM_checkWidth_eq_ok {t : Table} {rows : List Row} {u : PUnit} :
    (forM rows fun r => t.checkWidth r.current.length) = .ok u ↔
      ∀ r ∈ rows, r.current.length = t.width := by
  induction rows with
  | nil => simp [List.forM_nil, pure_eq_ok]
  | cons r rows ih =>
    rw [List.forM_cons, bind_eq_ok]
    simp [checkWidth_eq_ok, ih]

/-- Rows are taken in exactly if the current values of each fit; the baselines are not looked at. -/
theorem setRows_eq_ok {t t' : Table} {rows : List Row} :
    t.setRows rows = .ok t' ↔
      (∀ r ∈ rows, r.current.length = t.width) ∧ { t with rows } = t' := by
  simp only [setRows, List.forM_eq_forM, bind_eq_ok, pure_eq_ok, forM_checkWidth_eq_ok]
  simp

/-- A cell is written exactly if its column and its row are there, the row is not deleted and it is wide
enough. -/
theorem setValue_eq_ok {t t' : Table} {row : Nat} {column : String} {v : Value} :
    t.setValue row column v = .ok t' ↔
      ∃ i r, t.columnIndex? column = some i ∧ t.rows[row]? = some r ∧ r.state ≠ .deleted ∧
        i < r.current.length ∧ t.setRow row (r.edit i v) = t' := by
  simp only [setValue, bind_eq_ok, requireColumn_eq_ok, requireRow_eq_ok]
  constructor
  · rintro ⟨i, hi, r, hr, h⟩
    split at h
    · exact absurd h throw_ne_ok
    · split at h
      · exact ⟨i, r, hi, hr, ‹_›, ‹_›, pure_eq_ok.mp h⟩
      · exact absurd h throw_ne_ok
  · rintro ⟨i, r, hi, hr, live, cell, rfl⟩
    exact ⟨i, hi, r, hr, by rw [if_neg live, if_pos cell]; rfl⟩

/-- A row that is there can be restored. -/
theorem restoreRow_eq_ok {t t' : Table} {row : Nat} :
    t.restoreRow row = .ok t' ↔ ∃ r, t.rows[row]? = some r ∧ t.setRow row r.restore = t' := by
  simp only [restoreRow, bind_eq_ok, pure_eq_ok, requireRow_eq_ok]

/-- A row that is there can be deleted: a new one goes, a deleted one stays as it is, any other is
marked. -/
theorem deleteRow_eq_ok {t t' : Table} {row : Nat} :
    t.deleteRow row = .ok t' ↔ ∃ r, t.rows[row]? = some r ∧
      match r.state with
      | .added => { t with rows := t.rows.eraseIdx row } = t'
      | .deleted => t = t'
      | .unchanged | .modified => t.setRow row r.markDeleted = t' := by
  simp only [deleteRow, bind_eq_ok, requireRow_eq_ok]
  refine exists_congr fun r => and_congr_right fun _ => ?_
  cases r.state <;> exact pure_eq_ok

/-! ## Steps and runs -/

/-- The steps of an edit are the results with which it is accepted. -/
theorem apply_eq_ok_iff {t t' : Table} {e : Edit} : e.apply t = .ok t' ↔ t.Step e t' := by
  constructor
  · intro h
    cases e with
    | pushRow row =>
      obtain ⟨fits, rfl⟩ := pushRow_eq_ok.mp h
      exact .pushRow fits
    | setRows rows =>
      obtain ⟨fit, rfl⟩ := setRows_eq_ok.mp h
      exact .setRows fit
    | loadRow values =>
      obtain ⟨fits, rfl⟩ := pushRow_eq_ok.mp h
      exact .loadRow fits.current
    | addRow values =>
      obtain ⟨fits, rfl⟩ := pushRow_eq_ok.mp h
      exact .addRow fits.current
    | setValue row column v =>
      obtain ⟨i, r, index, found, live, cell, rfl⟩ := setValue_eq_ok.mp h
      exact .setValue index found live cell
    | deleteRow row =>
      obtain ⟨r, found, h⟩ := deleteRow_eq_ok.mp h
      split at h
      · exact h ▸ .dropRow found ‹_›
      · exact h ▸ .keepDeleted found ‹_›
      · exact h ▸ .markRow found (.inl ‹_›)
      · exact h ▸ .markRow found (.inr ‹_›)
    | restoreRow row =>
      obtain ⟨r, found, rfl⟩ := restoreRow_eq_ok.mp h
      exact .restoreRow found
    | setName | addBlankRow | acceptChanges | rejectChanges | clearConstraints | project =>
      cases h
      constructor
  · intro h
    cases h with
    | pushRow fits => exact pushRow_eq_ok.mpr ⟨fits, rfl⟩
    | setRows fit => exact setRows_eq_ok.mpr ⟨fit, rfl⟩
    | loadRow fits => exact pushRow_eq_ok.mpr ⟨⟨fits, by simp [Row.unchanged]⟩, rfl⟩
    | addRow fits => exact pushRow_eq_ok.mpr ⟨⟨fits, by simp [Row.added]⟩, rfl⟩
    | setValue index found live cell =>
      exact setValue_eq_ok.mpr ⟨_, _, index, found, live, cell, rfl⟩
    | dropRow found new => exact deleteRow_eq_ok.mpr ⟨_, found, by rw [new]⟩
    | markRow found loaded =>
      refine deleteRow_eq_ok.mpr ⟨_, found, ?_⟩
      rcases loaded with loaded | loaded <;> rw [loaded]
    | keepDeleted found gone => exact deleteRow_eq_ok.mpr ⟨_, found, by rw [gone]⟩
    | restoreRow found => exact restoreRow_eq_ok.mpr ⟨_, found, rfl⟩
    | setName | addBlankRow | acceptChanges | rejectChanges | clearConstraints | project => rfl

/-- What stands at a place after a row is replaced. -/
theorem getElem?_setRow_iff {t : Table} {row k : Nat} {r r' s : Row} (found : t.rows[row]? = some r) :
    (t.setRow row r').rows[k]? = some s ↔ (row = k ∧ s = r') ∨ (row ≠ k ∧ t.rows[k]? = some s) := by
  by_cases hk : row = k
  · subst hk
    have lt := (List.getElem?_eq_some_iff.mp found).1
    simp [setRow, List.getElem?_set_self lt, eq_comm]
  · simp [setRow, List.getElem?_set_ne hk, hk]

/-- After a row is replaced, each row was there before or is the new one. -/
theorem mem_rows_setRow {t : Table} {row : Nat} {r s : Row} (h : s ∈ (t.setRow row r).rows) :
    s ∈ t.rows ∨ s = r :=
  List.mem_or_eq_of_mem_set h

/-- After a row is added, each row was there before or is the new one. -/
theorem mem_rows_append {rows : List Row} {r s : Row} (h : s ∈ rows ++ [r]) : s ∈ rows ∨ s = r := by
  simpa using h

/-- Every row after a step has an origin before it. -/
theorem Step.origin {t t' : Table} {e : Edit} (s : t.Step e t') {r : Row} (h : r ∈ t'.rows) :
    t.Origin e r := by
  cases s with
  | setName | keepDeleted | clearConstraints => exact .kept h
  | pushRow fits =>
    rcases mem_rows_append h with mem | rfl
    · exact .kept mem
    · exact .pushed fits
  | setRows fit => exact .replaced h (fit r h)
  | loadRow fits =>
    rcases mem_rows_append h with mem | rfl
    · exact .kept mem
    · exact .loaded fits
  | addRow fits =>
    rcases mem_rows_append h with mem | rfl
    · exact .kept mem
    · exact .added fits
  | addBlankRow =>
    rcases mem_rows_append h with mem | rfl
    · exact .kept mem
    · exact .added (by simp)
  | setValue index found live cell =>
    rcases mem_rows_setRow h with mem | rfl
    · exact .kept mem
    · exact .edited (List.mem_of_getElem? found) live _ _
  | dropRow found new => exact .kept (List.mem_of_mem_eraseIdx h)
  | markRow found loaded =>
    rcases mem_rows_setRow h with mem | rfl
    · exact .kept mem
    · exact .marked (List.mem_of_getElem? found) loaded
  | restoreRow found =>
    rcases mem_rows_setRow h with mem | rfl
    · exact .kept mem
    · exact .restored (List.mem_of_getElem? found)
  | acceptChanges =>
    obtain ⟨s, hs, rfl⟩ := List.mem_map.mp h
    exact .accepted (List.mem_filter.mp hs).1
  | rejectChanges =>
    obtain ⟨s, hs, rfl⟩ := List.mem_map.mp h
    exact .rejected (List.mem_filter.mp hs).1
  | project => exact .kept (mem_of_mem_keepRows h)

/-- An edit that is tried makes a step, or no step is there for it and nothing changes. -/
theorem attempt_cases (t : Table) (e : Edit) :
    t.Step e (t.attempt e) ∨ (t.attempt e = t ∧ ∀ t', ¬ t.Step e t') := by
  unfold attempt
  cases h : e.apply t with
  | ok t' => exact .inl (apply_eq_ok_iff.mp h)
  | error err =>
    refine .inr ⟨rfl, fun t' s => ?_⟩
    rw [apply_eq_ok_iff.mpr s] at h
    cases h

/-- An edit that makes a step leads to its result. -/
theorem attempt_eq_of_step {t t' : Table} {e : Edit} (h : t.Step e t') : t.attempt e = t' := by
  unfold attempt
  rw [apply_eq_ok_iff.mpr h]

/-- The last of some edits is tried on what the others have made. -/
theorem run_append_singleton (t : Table) (edits : List Edit) (e : Edit) :
    t.run (edits ++ [e]) = (t.run edits).attempt e := by
  simp [run]

/-- Induction along a series of edits: the invariant may speak of the edits made so far. -/
theorem run_invariant {t : Table} {P : List Edit → Table → Prop} {edits : List Edit}
    (start : P [] t)
    (step : ∀ done e, done ++ [e] <+: edits → P done (t.run done) →
      P (done ++ [e]) ((t.run done).attempt e)) :
    P edits (t.run edits) := by
  have prefixes : ∀ done, done <+: edits → P done (t.run done) := by
    intro done
    induction done using List.reverseRecOn with
    | nil => exact fun _ => start
    | append_singleton done e ih =>
      intro h
      rw [run_append_singleton]
      exact step done e h (ih ((List.prefix_append done [e]).trans h))
  exact prefixes edits List.prefix_rfl

/-- What one edit of a series keeps, whatever came before, the whole series keeps. -/
theorem run_preserves {t : Table} {P : Table → Prop} {edits : List Edit} (start : P t)
    (step : ∀ s e s', e ∈ edits → P s → s.Step e s' → P s') : P (t.run edits) := by
  refine run_invariant (P := fun _ s => P s) start fun done e h ih => ?_
  have mem : e ∈ edits := h.subset (by simp)
  rcases attempt_cases (t.run done) e with s | ⟨same, -⟩
  · exact step _ e _ mem ih s
  · rw [same]
    exact ih

end Table

end DataGrid
