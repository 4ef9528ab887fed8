import DataGrid.Proofs.Changes.Reduction
import DataGrid.Proofs.Table.Session

/-!
# What has to be saved after a session

The set of changes is made from the rows as they are at the end of a session, with whatever baselines
they hold by then. It is right about the session as a whole (**`changes_run`**): a loaded row is in it
exactly if the user deleted it or if one of its cells now shows something else than when it was loaded,
and then it carries the values it was loaded with; a new row is in it exactly if it has something to
show.

Edits that only took something back again leave no trace, since the baseline is the row as loaded and
not as it was before the last edit (`Row.Follows` with equality of values), and a loaded row is in the
state of a deleted one exactly if a deletion of its place is among the edits
(`state_eq_deleted_iff`).
-/

namespace DataGrid

/-- Whether a cell of a row shows something else than the cell of another row in the same column: one
is null and the other is not, or their texts differ. The text of bytes is made of their digits, so it
differs if the bytes do. -/
def Row.ShowsOther (r₀ r : Row) : Prop :=
  ∃ i v₀ v, r₀.cell? i = some v₀ ∧ r.cell? i = some v ∧
    (v.isNull ≠ v₀.isNull ∨ v.text ≠ v₀.text)

namespace Row

variable {r₀ r : Row}

/-- A row whose baseline is what another row has now counts as modified exactly if it shows something
else than this row. -/
theorem isReallyModified_iff_showsOther (baseline : r.baseline = some r₀.current)
    (width : r.current.length = r₀.current.length) :
    r.isReallyModified = true ↔ r₀.ShowsOther r := by
  rw [isReallyModified_iff_of_some baseline, or_iff_right (not_not_intro width)]
  simp only [← Value.differs_iff_showsOther, Value.differs_iff]
  constructor
  · rintro ⟨i, v, v₀, hv, hv₀, other⟩
    exact ⟨i, v₀, v, hv₀, hv, other⟩
  · rintro ⟨i, v₀, v, hv₀, hv, other⟩
    exact ⟨i, v, v₀, hv, hv₀, other⟩

/-- A row with the values it was loaded with shows nothing else. -/
theorem not_showsOther_of_eq (h : r.current = r₀.current) : ¬ r₀.ShowsOther r := by
  rintro ⟨i, v₀, v, hv₀, hv, other⟩
  rw [cell?, h] at hv
  have : v₀ = v := Option.some.inj (hv₀.symm.trans hv)
  simp [this] at other

/-- A touched row holds, as its baseline, the values it was loaded with. -/
theorem Follows.baseline_eq (h : r₀.Follows Eq r) (touched : r.state ≠ .unchanged) :
    r.baseline = some r₀.current := by
  obtain ⟨values, hb, rfl⟩ := h.exists_baseline touched
  exact hb

/-- A loaded row has to be saved if it was deleted or shows something else than when it was
loaded. -/
theorem Follows.isWorthSaving_iff (h : r₀.Follows Eq r) :
    r.isWorthSaving = true ↔ r.state = .deleted ∨ r₀.ShowsOther r := by
  unfold isWorthSaving
  cases hs : r.state with
  | unchanged =>
    simpa using not_showsOther_of_eq (h.current_of_unchanged hs).symm
  | added => exact absurd hs h.loaded
  | modified =>
    have baseline := h.baseline_eq (by simp [hs])
    simpa using isReallyModified_iff_showsOther baseline h.width
  | deleted => simp

/-- Editing a row does not delete it. -/
theorem edit_state_ne_deleted (live : r.state ≠ .deleted) (i : Nat) (v : Value) :
    (r.edit i v).state ≠ .deleted := by
  unfold edit
  split
  · simp
  · exact live

/-- A new row is kept exactly if one of its cells has something to show. -/
theorem isWorthSaving_of_added (h : r.state = .added) :
    r.isWorthSaving = true ↔ ∃ v ∈ r.current, v.isBlank = false := by
  simp [isWorthSaving, h, isBlank]

end Row

namespace Table

variable {R : List Value → List Value → Prop} {t₀ t t' : Table} {e : Edit}

/-! ## Deletions -/

/-- A row that is there can be deleted, in whatever state it is. -/
theorem exists_step_deleteRow {k : Nat} {r : Row} (found : t.rows[k]? = some r) :
    ∃ t', t.Step (.deleteRow k) t' := by
  cases hs : r.state with
  | unchanged => exact ⟨_, .markRow found (.inl hs)⟩
  | added => exact ⟨_, .dropRow found hs⟩
  | modified => exact ⟨_, .markRow found (.inr hs)⟩
  | deleted => exact ⟨_, .keepDeleted found hs⟩

/-- A step makes a loaded row a deleted one if it deletes this row, and in no other way, unless it
restores a row. -/
theorem Follows.deleted_step (h : t₀.Follows R t) (s : t.Step e t') (user : e.isByUser = true)
    (restore : e.isRestore = false) {k : Nat} {r r' : Row} (lt : k < t₀.rowCount)
    (hr : t.rows[k]? = some r) (hr' : t'.rows[k]? = some r') :
    r'.state = .deleted ↔ r.state = .deleted ∨ e = .deleteRow k := by
  have same (hr' : t.rows[k]? = some r') : r = r' := Option.some.inj (hr.symm.trans hr')
  cases s with
  | addRow | addBlankRow =>
    have inside : k < t.rows.length := (List.getElem?_eq_some_iff.mp hr).1
    have := same ((List.getElem?_append_left inside).symm.trans hr')
    simp [this]
  | setValue index found live cell =>
    rcases (getElem?_setRow_iff found).mp hr' with ⟨rfl, rfl⟩ | ⟨-, hr'⟩
    · have := Option.some.inj (hr.symm.trans found)
      subst this
      simp [Row.edit_state_ne_deleted live, live]
    · simp [same hr']
  | dropRow found new =>
    -- A row that is dropped is a new one, and these stand after all loaded rows.
    have far := Nat.lt_of_lt_of_le lt (h.rowCount_le_of_new found new)
    have := same ((List.getElem?_eraseIdx_of_lt far).symm.trans hr')
    simp [this, Nat.ne_of_gt far]
  | markRow found loaded =>
    rcases (getElem?_setRow_iff found).mp hr' with ⟨rfl, rfl⟩ | ⟨ne, hr'⟩
    · simp [Row.markDeleted]
    · simp [same hr', ne]
  | @keepDeleted row _ found gone =>
    have := same hr'
    subst this
    by_cases hk : row = k
    · subst hk
      have := Option.some.inj (hr.symm.trans found)
      simp [this, gone]
    · simp [hk]
  | restoreRow => cases restore
  | setName | pushRow | setRows | loadRow | acceptChanges | rejectChanges | clearConstraints
  | project => cases user

/-- After a session without restorations, the deleted ones among the loaded rows are those for whose
place there was a deletion, at any time. -/
theorem state_eq_deleted_iff {edits : List Edit} (pristine : t₀.IsPristine)
    (session : ∀ e ∈ edits, e.isByUser = true ∧ e.isRestore = false) {k : Nat} {r : Row}
    (lt : k < t₀.rowCount) (hr : (t₀.run edits).rows[k]? = some r) :
    r.state = .deleted ↔ .deleteRow k ∈ edits := by
  have invariant : t₀.Follows Eq (t₀.run edits) ∧ ∀ r, (t₀.run edits).rows[k]? = some r →
      (r.state = .deleted ↔ .deleteRow k ∈ edits) := by
    refine run_invariant (P := fun done t => t₀.Follows Eq t ∧ ∀ r, t.rows[k]? = some r →
      (r.state = .deleted ↔ .deleteRow k ∈ done)) ?_ ?_
    · refine ⟨follows_self (fun _ => rfl) pristine, fun r hr => ?_⟩
      simp [(pristine r (List.mem_of_getElem? hr)).1]
    · rintro done e within ⟨follows, deleted⟩
      obtain ⟨user, restore⟩ := session e (within.subset (by simp))
      obtain ⟨s, hs, -⟩ := follows.loaded k _ (List.getElem?_eq_getElem lt)
      rcases attempt_cases (t₀.run done) e with step | ⟨same, refused⟩
      · refine ⟨follows.step step user (by simp [restore]), fun r hr => ?_⟩
        rw [follows.deleted_step step user restore lt hs hr, deleted s hs, List.mem_append,
          List.mem_singleton, eq_comm (a := e)]
      · -- a deletion of a row that is there is never refused
        have other : Edit.deleteRow k ≠ e := by
          rintro rfl
          obtain ⟨t', step⟩ := exists_step_deleteRow hs
          exact refused t' step
        rw [same]
        refine ⟨follows, fun r hr => ?_⟩
        rw [deleted r hr, List.mem_append, List.mem_singleton]
        exact (or_iff_left other).symm
  exact invariant.2 r hr

/-! ## The set of changes -/

/-- Whether the rows at some places of a table are those that have to be saved after a session that
went through some edits. -/
structure HaveToBeSaved (t₀ : Table) (edits : List Edit) (t : Table) (places : List Nat) : Prop where
  /-- The rows stand in the order of the table, each once. -/
  ascending : places.Pairwise (· < ·)
  inRange : ∀ k ∈ places, k < t.rowCount
  /-- A loaded row, still in its place, is there if it was deleted or shows something else, and comes
  with the values it was loaded with. -/
  loaded : ∀ (k : Nat) (r₀ : Row), t₀.rows[k]? = some r₀ → ∃ r, t.rows[k]? = some r ∧
    (k ∈ places ↔ .deleteRow k ∈ edits ∨ r₀.ShowsOther r) ∧
    (k ∈ places → r.baseline = some r₀.current)
  /-- A row after the loaded ones is new, and is there if it has something to show. -/
  new : ∀ (k : Nat) (r : Row), t₀.rowCount ≤ k → t.rows[k]? = some r → r.state = .added ∧
    (k ∈ places ↔ ∃ v ∈ r.current, v.isBlank = false)

/-- **The set of changes after a session without restorations holds just the rows that have to be
saved.** -/
theorem changes_run {edits : List Edit} (pristine : t₀.IsPristine)
    (session : ∀ e ∈ edits, e.isByUser = true ∧ e.isRestore = false) (name : String) :
    ∃ places, HaveToBeSaved t₀ edits (t₀.run edits) places ∧
      ((t₀.run edits).changes name).rows = places.filterMap ((t₀.run edits).rows[·]?) := by
  have follows : t₀.Follows Eq (t₀.run edits) :=
    follows_run (fun _ => rfl) pristine (fun e he => (session e he).1)
      fun e he restore => by simp [(session e he).2] at restore
  obtain ⟨places, ascending, rows, mem⟩ :=
    exists_places_keepRows (fun _ r => r.isWorthSaving) (t₀.run edits).rows
  have at_place {k : Nat} {r : Row} (hr : (t₀.run edits).rows[k]? = some r) :
      k ∈ places ↔ r.isWorthSaving = true := by
    rw [mem]
    exact ⟨fun ⟨s, hs, worth⟩ => Option.some.inj (hr.symm.trans hs) ▸ worth,
      fun worth => ⟨r, hr, worth⟩⟩
  refine ⟨places, ⟨ascending, fun k hk => ?_, fun k r₀ h₀ => ?_, fun k r le hr => ?_⟩, rows⟩
  · obtain ⟨r, hr, -⟩ := (mem k).mp hk
    exact (List.getElem?_eq_some_iff.mp hr).1
  · obtain ⟨r, hr, row⟩ := follows.loaded k r₀ h₀
    have lt : k < t₀.rowCount := (List.getElem?_eq_some_iff.mp h₀).1
    refine ⟨r, hr, ?_, fun hk => ?_⟩
    · rw [at_place hr, row.isWorthSaving_iff, state_eq_deleted_iff pristine session lt hr]
    · refine row.baseline_eq fun unchanged => ?_
      have worth := (at_place hr).mp hk
      simp [Row.isWorthSaving, unchanged] at worth
  · have new := follows.new k r le hr
    exact ⟨new, (at_place hr).trans (Row.isWorthSaving_of_added new)⟩

/-- A value changed and changed back, a number turned into its text, a deletion after an edit, a new
row that goes and shifts the next one, and edits that are refused. -/
theorem changes_run_three_rows :
    let t₀ : Table := ⟨"People", [.named "NAME" .string, .named "AGE" .number],
      [.unchanged [.string "Ann", .integer 7], .unchanged [.string "Bo", .null],
        .unchanged [.bytes [1, 2], .float .nan]]⟩
    let edits : List Edit := [.setValue 0 "NAME" .null, .setValue 0 "NAME" (.string "Ann"),
      .setValue 0 "AGE" (.string "7"), .addBlankRow, .addRow [.string "Eve", .null],
      .setValue 1 "AGE" (.string ""), .deleteRow 3, .setValue 2 "NAME" (.bytes []), .deleteRow 2,
      .setValue 2 "AGE" .null, .addRow [], .setValue 3 "AGE" (.string " ")]
    (t₀.IsPristine ∧ ∀ e ∈ edits, e.isByUser = true ∧ e.isRestore = false) ∧
      ∃ places, HaveToBeSaved t₀ edits (t₀.run edits) places ∧
        ((t₀.run edits).changes "C").rows = places.filterMap ((t₀.run edits).rows[·]?) := by
  intro t₀ edits
  have pristine : t₀.IsPristine := by decide
  have session : ∀ e ∈ edits, e.isByUser = true ∧ e.isRestore = false := by decide
  exact ⟨⟨pristine, session⟩, changes_run pristine session "C"⟩

end Table

end DataGrid
