import DataGrid.Proofs.Table.Steps

/-!
# Sessions at the grid

In a session a user edits cells, deletes rows, brings them back and adds new ones, at a table that is
**`IsPristine`**: no row of it has a history yet. The user's edits are those with **`Edit.isByUser`**.

Whatever is done in a session, the loaded rows stay where they are and the new ones come after them.
**`Table.Follows`** says this, and that each loaded row still knows what it was:
**`Row.Follows R r₀ r`** relates by `R` the values that `r₀` was loaded with to those that `r` would go
back to.

* `Follows.step`: an edit by a user keeps the relation, for a restored row if `R` puts up with cells
  that are merely equal.
* `follows_run`: so the relation holds after every session.
-/

namespace DataGrid

/-- Whether an edit is one that a user of the grid makes, to a cell or to a row. -/
def Edit.isByUser : Edit → Bool
  | .setValue .. | .deleteRow _ | .restoreRow _ | .addRow _ | .addBlankRow => true
  | .setName _ | .pushRow _ | .setRows _ | .loadRow _ | .acceptChanges | .rejectChanges
  | .clearConstraints | .project .. => false

/-- Whether an edit undoes a deletion. -/
def Edit.isRestore : Edit → Bool
  | .restoreRow _ => true
  | _ => false

/-- Whether no row of a table has a history. -/
def Table.IsPristine (t : Table) : Prop := ∀ r ∈ t.rows, r.state = .unchanged ∧ r.baseline = none

instance (t : Table) : Decidable t.IsPristine :=
  inferInstanceAs (Decidable (∀ r ∈ t.rows, r.state = .unchanged ∧ r.baseline = none))

/-! ## One row -/

variable {R : List Value → List Value → Prop}

/-- A row in a session, seen from the row that was loaded. The relation is between the values as they
were loaded and the values that a rejection would bring back. -/
structure Row.Follows (R : List Value → List Value → Prop) (r₀ r : Row) : Prop where
  loaded : r.state ≠ .added
  /-- A baseline is there from the first change on. -/
  baseline : r.baseline = none ↔ r.state = .unchanged
  width : r.current.length = r₀.current.length
  values : R r₀.current (r.baseline.getD r.current)

/-- Whether a relation puts up with cells that are merely equal. -/
def RespectsEquals (R : List Value → List Value → Prop) : Prop :=
  ∀ loaded values current, R loaded values → values.isEqv current Value.equals → R loaded current

namespace Row

variable {r₀ r : Row}

/-- As long as a row is untouched its values are related to those it was loaded with. -/
theorem Follows.current_of_unchanged (h : r₀.Follows R r) (unchanged : r.state = .unchanged) :
    R r₀.current r.current := by
  have values := h.values
  rwa [h.baseline.mpr unchanged] at values

/-- A touched row has a baseline, which is related to the values it was loaded with. -/
theorem Follows.exists_baseline (h : r₀.Follows R r) (touched : r.state ≠ .unchanged) :
    ∃ values, r.baseline = some values ∧ R r₀.current values := by
  have values := h.values
  cases hb : r.baseline with
  | none => exact absurd (h.baseline.mp hb) touched
  | some baseline =>
    rw [hb] at values
    exact ⟨baseline, rfl, values⟩

/-- The first edit takes the baseline, later ones leave it as it is. -/
theorem Follows.edit (h : r₀.Follows R r) (i : Nat) (v : Value) : r₀.Follows R (r.edit i v) := by
  have width : (r.current.set i v).length = r₀.current.length := by
    rw [List.length_set, h.width]
  unfold Row.edit
  split
  · rename_i unchanged
    exact ⟨by simp, by simp, width, h.current_of_unchanged unchanged⟩
  · rename_i touched
    obtain ⟨values, hb, kept⟩ := h.exists_baseline touched
    exact ⟨h.loaded, h.baseline, width, by rwa [hb]⟩

/-- Deleting a row keeps what it was. -/
theorem Follows.markDeleted (h : r₀.Follows R r) : r₀.Follows R r.markDeleted :=
  ⟨by simp [Row.markDeleted], by simp [Row.markDeleted], h.width, h.values⟩

/-- A restored row drops a baseline only if its values equal it. -/
theorem Follows.restore (h : r₀.Follows R r) (respects : RespectsEquals R) :
    r₀.Follows R r.restore := by
  unfold Row.restore
  split
  · rename_i deleted
    obtain ⟨values, hb, kept⟩ := h.exists_baseline (by simp [deleted])
    split
    · rename_i same
      rw [equalsBaseline, hb] at same
      exact ⟨by simp, by simp, h.width, respects _ _ _ kept same⟩
    · exact ⟨by simp, by simp [hb], h.width, by rwa [hb]⟩
  · exact h

/-- A row without a history follows itself. -/
theorem follows_self {r : Row} (refl : ∀ values, R values values) (state : r.state = .unchanged)
    (baseline : r.baseline = none) : r.Follows R r :=
  ⟨by simp [state], by simp [state, baseline], rfl, by rw [baseline]; exact refl _⟩

end Row

/-! ## All rows -/

namespace Table

/-- A table in a session, seen from the table that was loaded. -/
structure Follows (R : List Value → List Value → Prop) (t₀ t : Table) : Prop where
  name : t.name = t₀.name
  columns : t.columns = t₀.columns
  loaded : ∀ (k : Nat) (r₀ : Row), t₀.rows[k]? = some r₀ →
    ∃ r, t.rows[k]? = some r ∧ r₀.Follows R r
  new : ∀ (k : Nat) (r : Row), t₀.rowCount ≤ k → t.rows[k]? = some r → r.state = .added

variable {t₀ t t' : Table} {e : Edit}

/-- A table without a history follows itself. -/
theorem follows_self (refl : ∀ values, R values values) (pristine : t.IsPristine) :
    t.Follows R t where
  name := rfl
  columns := rfl
  loaded k r hr :=
    have untouched := pristine r (List.mem_of_getElem? hr)
    ⟨r, hr, Row.follows_self refl untouched.1 untouched.2⟩
  new k r le hr := by
    rw [List.getElem?_eq_none le] at hr
    cases hr

/-- No loaded row has been lost. -/
theorem Follows.rowCount_le (h : t₀.Follows R t) : t₀.rowCount ≤ t.rowCount := by
  by_contra lt
  have lt : t.rows.length < t₀.rows.length := Nat.not_le.mp lt
  obtain ⟨r, hr, -⟩ := h.loaded _ _ (List.getElem?_eq_getElem lt)
  rw [List.getElem?_eq_none (Nat.le_refl _)] at hr
  cases hr

/-- The row at a place where a row was loaded is the loaded one. -/
theorem Follows.row (h : t₀.Follows R t) {k : Nat} {r : Row} (lt : k < t₀.rowCount)
    (hr : t.rows[k]? = some r) : t₀.rows[k].Follows R r := by
  obtain ⟨s, hs, follows⟩ := h.loaded k _ (List.getElem?_eq_getElem lt)
  rw [hs] at hr
  exact Option.some.inj hr ▸ follows

/-- A new row at the end leaves the loaded ones where they are. -/
theorem Follows.append (h : t₀.Follows R t) {r : Row} (new : r.state = .added) :
    t₀.Follows R { t with rows := t.rows ++ [r] } where
  name := h.name
  columns := h.columns
  loaded k r₀ h₀ := by
    obtain ⟨s, hs, follows⟩ := h.loaded k r₀ h₀
    obtain ⟨lt, -⟩ := List.getElem?_eq_some_iff.mp hs
    exact ⟨s, (List.getElem?_append_left lt).trans hs, follows⟩
  new k s le hs := by
    rcases Nat.lt_or_ge k t.rows.length with lt | ge
    · exact h.new k s le ((List.getElem?_append_left lt).symm.trans hs)
    · rw [List.getElem?_append_right ge] at hs
      rw [List.mem_singleton.mp (List.mem_of_getElem? hs)]
      exact new

/-- A new row stands after all loaded ones. -/
theorem Follows.rowCount_le_of_new (h : t₀.Follows R t) {row : Nat} {r : Row}
    (found : t.rows[row]? = some r) (new : r.state = .added) : t₀.rowCount ≤ row := by
  by_contra lt
  exact (h.row (Nat.not_le.mp lt) found).loaded new

/-- A row may be replaced by one that is as mindful of what was loaded, and new if it was new. -/
theorem Follows.setRow (h : t₀.Follows R t) {row : Nat} {r r' : Row}
    (found : t.rows[row]? = some r) (keeps : ∀ r₀ : Row, r₀.Follows R r → r₀.Follows R r')
    (new : r.state = .added → r'.state = .added) : t₀.Follows R (t.setRow row r') where
  name := h.name
  columns := h.columns
  loaded k r₀ h₀ := by
    obtain ⟨s, hs, follows⟩ := h.loaded k r₀ h₀
    by_cases hk : row = k
    · subst hk
      rw [found] at hs
      exact ⟨r', (getElem?_setRow_iff found).mpr (.inl ⟨rfl, rfl⟩),
        keeps r₀ (Option.some.inj hs ▸ follows)⟩
    · exact ⟨s, (getElem?_setRow_iff found).mpr (.inr ⟨hk, hs⟩), follows⟩
  new k s le hs := by
    rcases (getElem?_setRow_iff found).mp hs with ⟨rfl, rfl⟩ | ⟨-, hs⟩
    · exact new (h.new row r le found)
    · exact h.new k s le hs

/-- A row that goes is a new one, so no loaded row changes its place. -/
theorem Follows.dropRow (h : t₀.Follows R t) {row : Nat} {r : Row} (found : t.rows[row]? = some r)
    (new : r.state = .added) : t₀.Follows R { t with rows := t.rows.eraseIdx row } where
  name := h.name
  columns := h.columns
  loaded k r₀ h₀ := by
    obtain ⟨s, hs, follows⟩ := h.loaded k r₀ h₀
    have lt : k < row := Nat.lt_of_lt_of_le (List.getElem?_eq_some_iff.mp h₀).1
      (h.rowCount_le_of_new found new)
    exact ⟨s, (List.getElem?_eraseIdx_of_lt lt).trans hs, follows⟩
  new k s le hs := by
    rcases Nat.lt_or_ge k row with lt | ge
    · exact h.new k s le ((List.getElem?_eraseIdx_of_lt lt).symm.trans hs)
    · exact h.new (k + 1) s (by omega) ((List.getElem?_eraseIdx_of_ge ge).symm.trans hs)

/-- **An edit by a user keeps the loaded rows in place and mindful of what they were.** -/
theorem Follows.step (h : t₀.Follows R t) (s : t.Step e t') (user : e.isByUser = true)
    (respects : e.isRestore = true → RespectsEquals R) : t₀.Follows R t' := by
  cases s with
  | addRow | addBlankRow => exact h.append rfl
  | setValue index found live cell =>
    refine h.setRow found (fun r₀ follows => follows.edit _ _) fun new => ?_
    unfold Row.edit
    rw [new]
  | dropRow found new => exact h.dropRow found new
  | markRow found loaded =>
    refine h.setRow found (fun r₀ follows => follows.markDeleted) fun new => ?_
    simp [new] at loaded
  | keepDeleted => exact h
  | @restoreRow row r found =>
    refine h.setRow found (fun r₀ follows => follows.restore (respects rfl)) fun new => ?_
    have live : r.state ≠ .deleted := by simp [new]
    unfold Row.restore
    rw [if_neg live]
    exact new
  | setName | pushRow | setRows | loadRow | acceptChanges | rejectChanges | clearConstraints
  | project => cases user

/-- After every session at a pristine table the loaded rows are in place and know what they were. -/
theorem follows_run {edits : List Edit} (refl : ∀ values, R values values)
    (pristine : t₀.IsPristine) (user : ∀ e ∈ edits, e.isByUser = true)
    (respects : ∀ e ∈ edits, e.isRestore = true → RespectsEquals R) :
    t₀.Follows R (t₀.run edits) :=
  run_preserves (P := t₀.Follows R) (follows_self refl pristine)
    fun _ e _ mem h s => h.step s (user e mem) (respects e mem)

end Table

end DataGrid
