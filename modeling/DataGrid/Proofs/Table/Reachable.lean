import DataGrid.Changes
import DataGrid.Proofs.Table.Steps

/-!
# Tables that can be reached

A table is **`Reachable`** if it comes from a new one by edits, accepted or refused, and by taking
sets of changes. Rows that are handed in on the way are made in one of the four ways to make a row
(**`Row.IsMade`**) or are taken from tables that can be reached as well, so a row may wander from one
table to another.

A row keeps its state and its baseline in two fields, and each operation writes them for itself. They
are **`Row.InStep`** if a baseline is there exactly when the row was modified or deleted.

* `Reachable.run`: a series of edits leads from a table that can be reached to such tables only.
* `Step.inStep`: an accepted edit keeps all rows in step if the rows that it takes in are.
* `Step.columnNames_eq`: no edit changes the name of a column.
* **`reachable_lifeCycle`**: so in every table that can be reached all rows are in step, and no two
  columns have one name.
-/

namespace DataGrid

/-! ## Reachability -/

/-- Whether a row is made from values and not by an edit. -/
inductive Row.IsMade : Row → Prop
  | unchanged (values : List Value) : IsMade (.unchanged values)
  | added (values : List Value) : IsMade (.added values)
  | modified (baseline current : List Value) : IsMade (.modified baseline current)
  | deleted (values : List Value) : IsMade (.deleted values)

/-- The rows that an edit hands in as they are. -/
def Edit.rowsIn : Edit → List Row
  | .pushRow row => [row]
  | .setRows rows => rows
  | .setName _ | .loadRow _ | .addRow _ | .addBlankRow | .setValue .. | .deleteRow _
  | .restoreRow _ | .acceptChanges | .rejectChanges | .clearConstraints | .project .. => []

namespace Table

/-- Whether a table can be reached from new ones. -/
inductive Reachable : Table → Prop
  | create {name : String} {columns : List Column} {t : Table} (new : create name columns = .ok t) :
      Reachable t
  /-- Rows that are handed in are made, or taken from other tables that can be reached. -/
  | edit {t : Table} {e : Edit} {others : List Table} (before : Reachable t)
      (reached : ∀ s ∈ others, Reachable s)
      (rows : ∀ r ∈ e.rowsIn, r.IsMade ∨ ∃ s ∈ others, r ∈ s.rows) : Reachable (t.attempt e)
  | changes {t : Table} (before : Reachable t) (name : String) : Reachable (t.changes name)

variable {t t' : Table} {e : Edit}

/-- Edits of a table that can be reached lead to tables that can be reached, if rows that are handed in
are made. -/
theorem Reachable.run {edits : List Edit} (before : t.Reachable)
    (made : ∀ e ∈ edits, ∀ r ∈ e.rowsIn, r.IsMade) : (t.run edits).Reachable := by
  refine run_invariant (P := fun _ s => s.Reachable) before fun done e within reached => ?_
  have mem : e ∈ edits := within.subset (by simp)
  exact @Reachable.edit _ e [] reached (by simp) fun r hr => .inl (made e mem r hr)

/-- A series of edits of a new table, if rows that are handed in are made. -/
theorem reachable_run {name : String} {columns : List Column} {edits : List Edit}
    (distinct : (columns.map (·.name)).Nodup) (made : ∀ e ∈ edits, ∀ r ∈ e.rowsIn, r.IsMade) :
    (run ⟨name, columns, []⟩ edits).Reachable :=
  (Reachable.create (create_eq_ok.mpr ⟨distinct, rfl⟩)).run made

end Table

/-! ## State and baseline -/

namespace Row

/-- Whether a row has a baseline exactly when it was modified or deleted. -/
def InStep (r : Row) : Prop := r.baseline.isSome = true ↔ r.state = .modified ∨ r.state = .deleted

instance (r : Row) : Decidable r.InStep :=
  inferInstanceAs (Decidable (r.baseline.isSome = true ↔ r.state = .modified ∨ r.state = .deleted))

variable {r : Row}

/-- A modified or deleted row in step has a baseline. -/
theorem InStep.exists_baseline (h : r.InStep) (touched : r.state = .modified ∨ r.state = .deleted) :
    ∃ values, r.baseline = some values :=
  Option.isSome_iff_exists.mp (h.mpr touched)

/-- An unchanged or new row in step has no baseline. -/
theorem InStep.baseline_eq_none (h : r.InStep) (untouched : r.state = .unchanged ∨ r.state = .added) :
    r.baseline = none := by
  cases hb : r.baseline with
  | none => rfl
  | some values =>
    have touched := h.mp (by rw [hb]; rfl)
    rcases untouched with hs | hs <;> simp [hs] at touched

/-- Rows that are made are in step. -/
theorem inStep_of_isMade (h : r.IsMade) : r.InStep := by
  cases h <;> simp [InStep, unchanged, added, modified, deleted]

/-- The first edit writes both fields, a later one neither of them. -/
theorem InStep.edit (h : r.InStep) (i : Nat) (v : Value) : (r.edit i v).InStep := by
  unfold Row.edit
  split
  · simp [InStep]
  · exact h

/-- A deleted row is in step, whatever it was before. -/
theorem inStep_markDeleted (r : Row) : r.markDeleted.InStep := by simp [InStep, markDeleted]

/-- A deleted row comes back without its baseline, or as modified and with it. -/
theorem InStep.restore (h : r.InStep) : r.restore.InStep := by
  unfold Row.restore
  split
  · rename_i deleted
    split
    · simp [InStep]
    · obtain ⟨values, hb⟩ := h.exists_baseline (.inr deleted)
      simp [InStep, hb]
  · exact h

/-- A row whose changes are accepted is in step. -/
theorem inStep_accept (r : Row) : r.accept.InStep := by simp [InStep, accept]

/-- A row whose changes are rejected is in step. -/
theorem inStep_reject (r : Row) : r.reject.InStep := by simp [InStep, reject]

end Row

/-! ## Every table that can be reached -/

namespace Table

variable {t t' : Table} {e : Edit}

/-- **An accepted edit keeps state and baseline of all rows in step**, provided that those of the rows
that are handed in are. -/
theorem Step.inStep (s : t.Step e t') (rows : ∀ r ∈ t.rows, r.InStep)
    (handed : ∀ r ∈ e.rowsIn, r.InStep) : ∀ r ∈ t'.rows, r.InStep := by
  intro r hr
  cases s.origin hr with
  | kept mem => exact rows r mem
  | pushed => exact handed r (by simp [Edit.rowsIn])
  | replaced mem => exact handed r mem
  | loaded | added => simp [Row.InStep, Row.unchanged, Row.added]
  | edited mem => exact (rows _ mem).edit _ _
  | marked => exact Row.inStep_markDeleted _
  | restored mem => exact (rows _ mem).restore
  | accepted => exact Row.inStep_accept _
  | rejected => exact Row.inStep_reject _

/-- The names of the columns, in order. -/
def columnNames (t : Table) : List String := t.columns.map (·.name)

/-- Without constraints the columns keep their names. -/
theorem columnNames_clearConstraints (t : Table) : t.clearConstraints.columnNames = t.columnNames := by
  simp [columnNames, clearConstraints, Column.withoutConstraints]

/-- No edit changes the names of the columns. -/
theorem Step.columnNames_eq (s : t.Step e t') : t'.columnNames = t.columnNames := by
  cases s with
  | clearConstraints => exact t.columnNames_clearConstraints
  | setName | pushRow | setRows | loadRow | addRow | addBlankRow | setValue | dropRow | markRow
  | keepDeleted | restoreRow | acceptChanges | rejectChanges | project => rfl

/-- Every row of a set of changes is one of the table. -/
theorem mem_rows_of_mem_changes {name : String} {r : Row} (h : r ∈ (t.changes name).rows) :
    r ∈ t.rows :=
  mem_of_mem_keepRows h

/-- In every table that can be reached all rows are in step. -/
theorem Reachable.inStep (h : t.Reachable) : ∀ r ∈ t.rows, r.InStep := by
  induction h with
  | create new =>
    obtain ⟨-, rfl⟩ := create_eq_ok.mp new
    intro r hr
    cases hr
  | @edit t e others _ _ rows ih handed =>
    rcases attempt_cases t e with step | ⟨same, -⟩
    · refine step.inStep ih fun r hr => ?_
      rcases rows r hr with made | ⟨s, hs, mem⟩
      · exact Row.inStep_of_isMade made
      · exact handed s hs r mem
    · rw [same]
      exact ih
  | changes _ name ih => exact fun r hr => ih r (mem_rows_of_mem_changes hr)

/-- In every table that can be reached the columns have different names. -/
theorem Reachable.nodup_columnNames (h : t.Reachable) : t.columnNames.Nodup := by
  induction h with
  | create new =>
    obtain ⟨distinct, rfl⟩ := create_eq_ok.mp new
    exact distinct
  | @edit t e _ _ _ _ ih =>
    rcases attempt_cases t e with step | ⟨same, -⟩
    · rw [step.columnNames_eq]
      exact ih
    · rw [same]
      exact ih
  | @changes t _ name ih =>
    have names : (t.changes name).columnNames = t.columnNames := columnNames_clearConstraints _
    rw [names]
    exact ih

/-- **In every table that can be reached, a row has a baseline exactly if it was modified or deleted**,
and no two columns have one name. -/
theorem reachable_lifeCycle (h : t.Reachable) :
    (∀ r ∈ t.rows, r.baseline.isSome = true ↔ r.state = .modified ∨ r.state = .deleted) ∧
      (t.columns.map (·.name)).Nodup :=
  ⟨h.inStep, h.nodup_columnNames⟩

/-- Rows that are edited twice, deleted twice, restored and rejected, and a deleted row of a set of
changes that goes back into the table. -/
theorem reachable_lifeCycle_two_tables :
    let t₀ : Table := ⟨"Sums", [.named "SUM" .number, .named "NOTE" .string], []⟩
    let edits : List Edit := [.loadRow [.float (.ofInt 0), .null], .loadRow [.null, .string "x"],
      .setRows [.modified [.null, .null] [.integer 1, .null], .unchanged [.float .nan, .null],
        .deleted [.null, .string "y"]], .setValue 0 "SUM" .null, .deleteRow 0, .deleteRow 0,
      .setValue 1 "NOTE" (.string "z"), .setValue 1 "NOTE" .null, .addBlankRow, .deleteRow 1,
      .restoreRow 1, .deleteRow 3, .loadRow [.null]]
    let t₁ := t₀.run edits
    let t₂ := (t₁.run [.restoreRow 0, .acceptChanges]).attempt (.setRows (t₁.changes "C").rows)
    t₂.Reachable ∧
      (∀ r ∈ t₂.rows, r.baseline.isSome = true ↔ r.state = .modified ∨ r.state = .deleted) ∧
        (t₂.columns.map (·.name)).Nodup := by
  intro t₀ edits t₁ t₂
  have reached₁ : t₁.Reachable := by
    refine reachable_run (by decide) fun e he r hr => ?_
    have made : r ∈ [Row.modified [.null, .null] [.integer 1, .null],
        .unchanged [.float .nan, .null], .deleted [.null, .string "y"]] := by
      revert r e
      decide
    rcases List.mem_cons.mp made with rfl | made
    · exact .modified _ _
    · rcases List.mem_cons.mp made with rfl | made
      · exact .unchanged _
      · rw [List.mem_singleton.mp made]
        exact .deleted _
  have reached₂ : t₂.Reachable := by
    refine @Reachable.edit _ _ [t₁.changes "C"] (reached₁.run ?_) ?_ fun r hr => .inr ⟨_, ?_, hr⟩
    · simp [Edit.rowsIn]
    · simpa using reached₁.changes "C"
    · simp
  exact ⟨reached₂, reachable_lifeCycle reached₂⟩

end Table

end DataGrid
