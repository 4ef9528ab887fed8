import DataGrid.Proofs.Table.Steps
import DataGrid.Table.Query

/-!
# The widths of rows

A table is **`Rectangular`** when each of its rows has one value for every column, both now and at
its baseline. An operation **`BreaksOff`** when it meets a row that is too narrow to have the cell it
asks for.

* `Rectangular.neverBreaksOff`: on a rectangular table no operation that reads or writes cells
  breaks off.
* `Rectangular.step`: every accepted edit keeps a table rectangular, as long as rows that replace all
  others come with baselines of the right width.
* `rectangular_throughout_iff`: this condition is the exact one. The replacement of all rows is the
  one edit that takes in baselines without a look at them, and a later rejection makes a baseline of
  the wrong width the row itself.
-/

namespace DataGrid

namespace Row

variable {r : Row} {width : Nat}

/-- An edit keeps a row as wide as it was. -/
theorem Fits.edit (h : r.Fits width) (i : Nat) (v : Value) : (r.edit i v).Fits width := by
  have set : (r.current.set i v).length = width := by rw [List.length_set, h.current]
  unfold Row.edit
  split
  · exact ⟨set, by simpa using h.current⟩
  · exact ⟨set, h.baseline⟩

/-- What a row goes back to is as wide as the table. -/
theorem Fits.getD (h : r.Fits width) : (r.baseline.getD r.current).length = width := by
  cases hb : r.baseline with
  | none => exact h.current
  | some values => exact h.baseline values hb

/-- Deleting a row keeps its width. -/
theorem Fits.markDeleted (h : r.Fits width) : r.markDeleted.Fits width :=
  ⟨h.current, by simpa [Row.markDeleted] using h.getD⟩

/-- Restoring a row keeps its width. -/
theorem Fits.restore (h : r.Fits width) : r.restore.Fits width := by
  unfold Row.restore
  split
  · split
    · exact ⟨h.current, by simp⟩
    · exact ⟨h.current, h.baseline⟩
  · exact h

/-- Accepting the changes of a row keeps its width. -/
theorem Fits.accept (h : r.Fits width) : r.accept.Fits width := ⟨h.current, by simp [Row.accept]⟩

/-- Rejecting the changes of a row keeps its width, since the baseline has it too. -/
theorem Fits.reject (h : r.Fits width) : r.reject.Fits width := ⟨h.getD, by simp [Row.reject]⟩

end Row

namespace Table

variable {t t' : Table} {e : Edit}

/-- Whether every row has one value for each column, now and at its baseline. -/
def Rectangular (t : Table) : Prop := ∀ r ∈ t.rows, r.Fits t.width

instance (t : Table) : Decidable t.Rectangular :=
  inferInstanceAs (Decidable (∀ r ∈ t.rows, r.Fits t.width))

/-! ## Steps -/

/-- No edit changes the number of columns. -/
theorem Step.width_eq (s : t.Step e t') : t'.width = t.width := by
  cases s <;> simp [width, Table.setName, Table.addBlankRow, setRow, Table.acceptChanges,
    Table.rejectChanges, Table.clearConstraints, Table.project]

/-- No series of edits changes the number of columns. -/
theorem run_width (t : Table) (edits : List Edit) : (t.run edits).width = t.width :=
  run_preserves (P := fun s => s.width = t.width) rfl fun _ _ _ _ h s => s.width_eq.trans h

/-- **An accepted edit keeps a table rectangular**, provided that the baselines have the right width
where all rows are replaced. -/
theorem Rectangular.step (h : t.Rectangular) (s : t.Step e t')
    (baselines : ∀ rows, e = .setRows rows → ∀ r ∈ rows, ∀ values ∈ r.baseline,
      values.length = t.width) : t'.Rectangular := by
  intro r hr
  rw [s.width_eq]
  cases s.origin hr with
  | kept mem => exact h r mem
  | pushed fits => exact fits
  | replaced mem fits => exact ⟨fits, baselines _ rfl r mem⟩
  | loaded fits | added fits => exact ⟨fits, by simp [Row.unchanged, Row.added]⟩
  | edited mem => exact (h _ mem).edit _ _
  | marked mem => exact (h _ mem).markDeleted
  | restored mem => exact (h _ mem).restore
  | accepted mem => exact (h _ mem).accept
  | rejected mem => exact (h _ mem).reject

/-! ## Reading and writing cells -/

/-- Whether an operation breaks off at a row that is too narrow to have the cell it needs. -/
def BreaksOff {α : Type} (result : Except TableError α) : Prop :=
  ∃ row column, result = .error (.missingCell row column)

/-- Whether no operation on a table that reads or writes cells can break off. -/
structure NeverBreaksOff (t : Table) : Prop where
  value : ∀ row column, ¬ BreaksOff (t.value row column)
  setValue : ∀ row column v, ¬ BreaksOff (t.setValue row column v)
  maxInt : ∀ column, ¬ BreaksOff (t.maxInt column)
  commonValue : ∀ rows column, ¬ BreaksOff (t.commonValue rows column)

section breaksOff

variable {α β : Type}

/-- Two operations in a row break off exactly if the first does, or the second does after it. -/
theorem breaksOff_bind {x : Except TableError α} {f : α → Except TableError β} :
    BreaksOff (x >>= f) ↔ BreaksOff x ∨ ∃ a, x = .ok a ∧ BreaksOff (f a) := by
  unfold BreaksOff
  simp only [bind_eq_error]
  constructor
  · rintro ⟨row, column, h | ⟨a, ha, h⟩⟩
    · exact .inl ⟨row, column, h⟩
    · exact .inr ⟨a, ha, row, column, h⟩
  · rintro (⟨row, column, h⟩ | ⟨a, ha, row, column, h⟩)
    · exact ⟨row, column, .inl h⟩
    · exact ⟨row, column, .inr ⟨a, ha, h⟩⟩

/-- An operation with a result has not broken off. -/
theorem not_breaksOff_ok {a : α} : ¬ BreaksOff (.ok a : Except TableError α) := by
  simp [BreaksOff]

/-- Where an operation looks up a column first, it can only break off after that. -/
theorem exists_index_of_breaksOff {column : String} {f : Nat → Except TableError β}
    (h : BreaksOff (t.requireColumn column >>= f)) : ∃ i, i < t.width ∧ BreaksOff (f i) := by
  rcases breaksOff_bind.mp h with hc | ⟨i, hi, h⟩
  · unfold requireColumn at hc
    split at hc <;> simp [BreaksOff] at hc
  · exact ⟨i, columnIndex?_lt (requireColumn_eq_ok.mp hi), h⟩

/-- Where an operation looks up a row first, it can only break off after that. -/
theorem exists_row_of_breaksOff {row : Nat} {f : Row → Except TableError β}
    (h : BreaksOff (t.requireRow row >>= f)) : ∃ r ∈ t.rows, BreaksOff (f r) := by
  rcases breaksOff_bind.mp h with hr | ⟨r, hr, h⟩
  · unfold requireRow at hr
    split at hr <;> simp [BreaksOff] at hr
  · exact ⟨r, List.mem_of_getElem? (requireRow_eq_ok.mp hr), h⟩

end breaksOff

/-- A row that fits has a cell in each column. -/
theorem cellOf_eq_ok {r : Row} {width i : Nat} (fits : r.Fits width) (lt : i < width) (row : Nat)
    (name : String) : ∃ v, cellOf r row i name = .ok v := by
  have inside : i < r.current.length := fits.current.symm ▸ lt
  have cell : r.cell? i = some r.current[i] := List.getElem?_eq_getElem inside
  refine ⟨r.current[i], ?_⟩
  unfold cellOf
  rw [cell]

/-- A scan for the largest integer does not break off where all rows fit. -/
theorem not_breaksOff_maxIntFrom {width i : Nat} (lt : i < width) (name : String) :
    ∀ (rows : List Row) (row : Nat) (best : Option Int64), (∀ r ∈ rows, r.Fits width) →
      ¬ BreaksOff (maxIntFrom name i row best rows)
  | [], _, _, _ => not_breaksOff_ok
  | r :: rs, row, best, fits => by
    obtain ⟨v, hv⟩ := cellOf_eq_ok (fits r List.mem_cons_self) lt row name
    have rest := fun best => not_breaksOff_maxIntFrom lt name rs (row + 1) best
      fun s hs => fits s (List.mem_cons_of_mem r hs)
    rw [maxIntFrom, hv]
    show ¬ BreaksOff (if v.isNull then _ else _)
    split
    · exact rest best
    · split
      · exact rest _
      · simp [BreaksOff]

/-- A search for a common text does not break off in a rectangular table. -/
theorem Rectangular.not_breaksOff_commonTextFrom (h : t.Rectangular) {i : Nat} (lt : i < t.width)
    (name : String) : ∀ (rows : List Nat) (common : Option String),
      ¬ BreaksOff (commonTextFrom t name i common rows)
  | [], _ => not_breaksOff_ok
  | row :: rows, common => by
    intro hb
    rw [commonTextFrom] at hb
    obtain ⟨r, hr, hb⟩ := exists_row_of_breaksOff hb
    obtain ⟨v, hv⟩ := cellOf_eq_ok (h r hr) lt row name
    rw [hv] at hb
    revert hb
    cases common with
    | none => exact h.not_breaksOff_commonTextFrom lt name rows _
    | some text =>
      show ¬ BreaksOff (if v.text = text then _ else _)
      split
      · exact h.not_breaksOff_commonTextFrom lt name rows _
      · exact not_breaksOff_ok

/-- **A rectangular table has every cell that is asked for.** -/
theorem Rectangular.neverBreaksOff (h : t.Rectangular) : t.NeverBreaksOff where
  value row column hb := by
    obtain ⟨i, lt, hb⟩ := exists_index_of_breaksOff hb
    obtain ⟨r, hr, hb⟩ := exists_row_of_breaksOff hb
    obtain ⟨v, hv⟩ := cellOf_eq_ok (h r hr) lt row column
    rw [hv] at hb
    exact not_breaksOff_ok hb
  setValue row column v hb := by
    obtain ⟨i, lt, hb⟩ := exists_index_of_breaksOff hb
    obtain ⟨r, hr, hb⟩ := exists_row_of_breaksOff hb
    have inside : i < r.current.length := (h r hr).current.symm ▸ lt
    rw [if_pos inside] at hb
    revert hb
    split
    · simp [BreaksOff, throw, throwThe, MonadExceptOf.throw]
    · exact not_breaksOff_ok
  maxInt column hb := by
    obtain ⟨i, lt, hb⟩ := exists_index_of_breaksOff hb
    exact not_breaksOff_maxIntFrom lt column t.rows 0 none h hb
  commonValue rows column hb := by
    obtain ⟨i, lt, hb⟩ := exists_index_of_breaksOff hb
    exact h.not_breaksOff_commonTextFrom lt column rows none hb

/-! ## Runs from a new table -/

/-- A new table has no rows. -/
theorem eq_of_create {name : String} {columns : List Column} (h : create name columns = .ok t) :
    t = { name, columns, rows := [] } :=
  (create_eq_ok.mp h).2.symm

/-- A new table is rectangular. -/
theorem Rectangular.of_create {name : String} {columns : List Column}
    (h : create name columns = .ok t) : t.Rectangular := by
  rw [eq_of_create h]
  intro r hr
  cases hr

/-- **A new table stays rectangular, and no operation on it breaks off, throughout a series of edits
exactly if every replacement of all rows that is accepted hands in baselines as wide as the table.**
All other edits may be any, accepted or refused, with whatever rows are handed in. -/
theorem rectangular_throughout_iff {name : String} {columns : List Column}
    (new : create name columns = .ok t) (edits : List Edit) :
    (∀ done, done <+: edits → (t.run done).Rectangular ∧ (t.run done).NeverBreaksOff) ↔
      ∀ rows, .setRows rows ∈ edits → (∀ r ∈ rows, r.current.length = columns.length) →
        ∀ r ∈ rows, ∀ values ∈ r.baseline, values.length = columns.length := by
  have width : t.width = columns.length := by rw [eq_of_create new, Table.width]
  constructor
  · intro throughout rows mem fit r hr
    obtain ⟨done, rest, rfl⟩ := List.append_of_mem mem
    -- the state right after the replacement has just these rows
    have step : (t.run done).Step (.setRows rows) { t.run done with rows } := by
      apply Step.setRows
      intro r hr
      rw [run_width, width, fit r hr]
    have after := (throughout (done ++ [.setRows rows]) ⟨rest, by simp⟩).1
    rw [run_append_singleton, attempt_eq_of_step step] at after
    have fits := after r hr
    rw [step.width_eq, run_width, width] at fits
    exact fits.baseline
  · intro baselines done hdone
    have rectangular : (t.run done).Rectangular := by
      refine run_preserves (P := fun s => s.width = columns.length ∧ s.Rectangular)
        ⟨width, .of_create new⟩ (fun s e s' mem hs step => ?_) |>.2
      refine ⟨step.width_eq.trans hs.1, hs.2.step step ?_⟩
      rintro rows rfl r hr
      cases step with
      | setRows fit =>
        rw [hs.1]
        exact baselines rows (hdone.subset mem) (fun r hr => hs.1 ▸ fit r hr) r hr
    exact ⟨rectangular, rectangular.neverBreaksOff⟩

/-- Rows that fit, one that is refused, an edit and a rejection. -/
theorem rectangular_throughout_rejection :
    ∃ t, create "People" [.named "NAME" .string, .named "AGE" .number] = .ok t ∧
      ∀ done, done <+: [.setRows [.modified [.string "Ann", .null] [.string "Anna", .integer 7]],
          .addRow [.null], .setValue 0 "AGE" .null, .rejectChanges] →
        (t.run done).Rectangular ∧ (t.run done).NeverBreaksOff := by
  have new : create "People" [.named "NAME" .string, .named "AGE" .number] =
      .ok ⟨"People", [.named "NAME" .string, .named "AGE" .number], []⟩ := rfl
  exact ⟨_, new, (rectangular_throughout_iff new _).mpr (by simp [Row.modified])⟩

/-- A row without any baseline values is taken in, and after a rejection its cell is missing. -/
theorem breaksOff_after_narrow_baseline :
    ∃ t, create "People" [.named "NAME" .string] = .ok t ∧
      ¬ (t.run [.setRows [.modified [] [.string "Anna"]]]).Rectangular ∧
      BreaksOff ((t.run [.setRows [.modified [] [.string "Anna"]], .rejectChanges]).value 0 "NAME") :=
  ⟨_, rfl, by decide, 0, "NAME", rfl⟩

end Table

end DataGrid
