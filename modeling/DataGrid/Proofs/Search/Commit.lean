import DataGrid.Proofs.Search.Decision
import DataGrid.Proofs.Search.View
import DataGrid.Table.Edit

/-!
# Searching before and after a commit

Once the changes of a table are accepted, the rows that were deleted are gone, and those that were not have
other states, baselines and indices. A filter sees none of this: testing a row uses its current values,
and its index only to tell where an error is.

* `matchesRow_eq_ok_iff`: what testing comes to, errors apart, does not depend on the index, the state or
  the baseline of a row.
* `apply_eq_ok_iff_live`: a filter has a view exactly if it can be tested on each row that is not deleted.
  Accepting the changes leaves just these rows (`Table.rows_acceptChanges`).
* **`apply_acceptChanges`**: so the same rows are in view before and after, in the same order, and there is
  no view after where there was none before.
-/

namespace DataGrid

/-! ## One row -/

namespace ResolvedFilter

variable {f : ResolvedFilter} {row row' : Nat} {r s : Row} {b : Bool}

/-- The index of a row is in errors only, so a test that succeeds comes to the same at any index. -/
theorem satisfies_eq_ok_iff {c : ResolvedComparison} {v : Value} (row row' : Nat) :
    f.satisfies c row v = .ok b ↔ f.satisfies c row' v = .ok b := by
  unfold satisfies
  cases c.test with
  | number operand => cases v.asNumber? <;> simp
  | pattern pattern | text operand => exact Iff.rfl

/-- The same goes for the cell of a row, of which only the current values count. -/
theorem accepts_eq_ok_iff {c : ResolvedComparison} (same : r.current = s.current) (row row' : Nat) :
    f.accepts row r c = .ok b ↔ f.accepts row' s c = .ok b := by
  unfold accepts
  rw [Row.cell?, same, ← Row.cell?]
  cases (s.cell? c.index).getD .null with
  | null => exact Iff.rfl
  | boolean | integer | float | decimal | string | bytes => exact satisfies_eq_ok_iff row row'

/-- Testing a row comes to the same, errors apart, wherever the row stands and whatever has become of
it. -/
theorem matchesRow_eq_ok_iff (same : r.current = s.current) (row row' : Nat) :
    f.matchesRow row r = .ok b ↔ f.matchesRow row' s = .ok b := by
  rw [matchesRow, matchesRow]
  induction f.comparisons with
  | nil => exact Iff.rfl
  | cons c cs ih =>
    -- The other comparisons are looked at only after a pass.
    simp only [acceptsAll, bind_eq_ok, accepts_eq_ok_iff same row row']
    apply exists_congr
    rintro (_ | _)
    · exact Iff.rfl
    · exact and_congr_right fun _ => ih

/-- Whether a filter can be tested on a row, and what comes of it. -/
def Tests (f : ResolvedFilter) (r : Row) (b : Bool) : Prop := f.matchesRow 0 r = .ok b

instance (f : ResolvedFilter) (r : Row) (b : Bool) : Decidable (f.Tests r b) :=
  inferInstanceAs (Decidable (f.matchesRow 0 r = .ok b))

/-- An accepted row is tested as the row was before. -/
theorem tests_accept_iff : f.Tests r.accept b ↔ f.Tests r b := by
  have same : r.accept.current = r.current := rfl
  exact matchesRow_eq_ok_iff same 0 0

end ResolvedFilter

/-! ## Picking members by their places -/

section

variable {α β : Type} (pick : α → Bool) (l : List α)

/-- Members that are picked together with their places are the members that are picked. -/
theorem map_fst_filter_zipIdx : (l.zipIdx.filter fun p => pick p.1).map (·.1) = l.filter pick := by
  conv_rhs => rw [← List.zipIdx_map_fst 0 l, List.filter_map]
  rfl

/-- What is said of members with their places is said of the members. -/
theorem forall_mem_zipIdx_iff {P : α → Prop} : (∀ p ∈ l.zipIdx, P p.1) ↔ ∀ a ∈ l, P a := by
  conv_rhs => rw [← List.zipIdx_map_fst 0 l]
  exact List.forall_mem_map.symm

/-- What stands at the places of the members that are picked is what these members are. -/
theorem map_getElem?_filter_zipIdx (look : α → β) :
    ((l.zipIdx.filter fun p => pick p.1).map (·.2)).map (fun i => (l[i]?).map look) =
      (l.filter pick).map fun a => some (look a) := by
  have found : ∀ p ∈ l.zipIdx.filter fun p => pick p.1,
      (l[p.2]?).map look = some (look p.1) := by
    intro p mem
    rw [List.mem_zipIdx_iff_getElem?.mp (List.mem_filter.mp mem).1, Option.map_some]
  calc ((l.zipIdx.filter fun p => pick p.1).map (·.2)).map (fun i => (l[i]?).map look)
      = (l.zipIdx.filter fun p => pick p.1).map fun p => some (look p.1) := by
        rw [List.map_map]
        exact List.map_congr_left found
    _ = (l.filter pick).map fun a => some (look a) := by
        rw [← map_fst_filter_zipIdx pick l, List.map_map]
        rfl

end

/-! ## Rows that are not deleted -/

namespace Table

variable {t : Table}

/-- The current values of the row at an index. -/
def values? (t : Table) (row : Nat) : Option (List Value) := (t.rows[row]?).map (·.current)

/-- A row that is not deleted is found at the index that it is given with. -/
theorem values?_of_mem_liveRows {p : Row × Nat} (mem : p ∈ t.liveRows) :
    t.values? p.2 = some p.1.current := by
  rw [values?, (mem_liveRows_iff.mp mem).1, Option.map_some]

/-- Accepting the changes leaves the rows that are not deleted. -/
theorem rows_acceptChanges (t : Table) :
    t.acceptChanges.rows = t.liveRows.map (·.1.accept) := by
  have live : t.liveRows.map (·.1) = t.rows.filter (·.state ≠ .deleted) :=
    map_fst_filter_zipIdx (fun r : Row => r.state ≠ .deleted) t.rows
  rw [acceptChanges, ← live, List.map_map]
  rfl

/-- Once they are accepted, none of them is deleted. -/
theorem liveRows_acceptChanges (t : Table) :
    t.acceptChanges.liveRows = (t.liveRows.map (·.1.accept)).zipIdx := by
  rw [liveRows, rows_acceptChanges, List.filter_eq_self]
  intro p mem
  obtain ⟨q, -, accepted⟩ := List.mem_map.mp (List.fst_mem_of_mem_zipIdx mem)
  rw [← accepted]
  rfl

end Table

/-! ## All rows -/

namespace ResolvedFilter

variable {f : ResolvedFilter} {t : Table} {a : List Nat}

/-- The rows in view, each with its index. -/
def shownRows (f : ResolvedFilter) (t : Table) : List (Row × Nat) :=
  t.liveRows.filter fun p => f.Tests p.1 true

/-- A filter has a view exactly if it can be tested on each row that is not deleted. -/
theorem apply_eq_ok_iff_live :
    f.apply t = .ok a ↔
      (∀ p ∈ t.liveRows, ∃ b, f.Tests p.1 b) ∧ (f.shownRows t).map (·.2) = a := by
  have tested : (∀ row r, t.rows[row]? = some r → r.state ≠ .deleted →
      ∃ b, f.matchesRow row r = .ok b) ↔ ∀ p ∈ t.liveRows, ∃ b, f.Tests p.1 b := by
    simp only [Table.mem_liveRows_iff, and_imp, Prod.forall]
    constructor
    · intro h r row found live
      obtain ⟨b, hb⟩ := h row r found live
      exact ⟨b, (matchesRow_eq_ok_iff rfl row 0).mp hb⟩
    · intro h row r found live
      obtain ⟨b, hb⟩ := h r row found live
      exact ⟨b, (matchesRow_eq_ok_iff rfl row 0).mpr hb⟩
  have shown : (t.rows.zipIdx.filter fun p => f.Shows p.2 p.1) = f.shownRows t := by
    rw [shownRows, Table.liveRows, List.filter_filter]
    refine List.filter_congr fun p _ => ?_
    rw [Bool.eq_iff_iff, Bool.and_eq_true, decide_eq_true_iff, decide_eq_true_iff, decide_eq_true_iff,
      Shows, matchesRow_eq_ok_iff rfl p.2 0, and_comm]
    exact Iff.rfl
  rw [apply_eq_ok_iff, tested, shown]

/-- The values at the indices of the rows in view are the values of these rows. -/
theorem map_values?_shownRows (f : ResolvedFilter) (t : Table) :
    ((f.shownRows t).map (·.2)).map t.values? = (f.shownRows t).map fun p => some p.1.current := by
  rw [List.map_map]
  exact List.map_congr_left fun p mem => Table.values?_of_mem_liveRows (List.mem_filter.mp mem).1

/-- After a commit the rows in view have the places that they had among the rows that were not deleted. -/
theorem apply_acceptChanges_eq_ok_iff :
    f.apply t.acceptChanges = .ok a ↔
      (∀ p ∈ t.liveRows, ∃ b, f.Tests p.1 b) ∧
        (t.liveRows.zipIdx.filter fun p => f.Tests p.1.1 true).map (·.2) = a := by
  have tested : (∀ p ∈ t.acceptChanges.liveRows, ∃ b, f.Tests p.1 b) ↔
      ∀ p ∈ t.liveRows, ∃ b, f.Tests p.1 b := by
    rw [Table.liveRows_acceptChanges, forall_mem_zipIdx_iff (P := fun r => ∃ b, f.Tests r b),
      List.forall_mem_map]
    exact forall₂_congr fun p _ => exists_congr fun b => tests_accept_iff
  have shown : (f.shownRows t.acceptChanges).map (·.2) =
      (t.liveRows.zipIdx.filter fun p => f.Tests p.1.1 true).map (·.2) := by
    rw [shownRows, Table.liveRows_acceptChanges, List.zipIdx_map, List.filter_map, List.map_map]
    have same (p : (Row × Nat) × Nat) :
        decide (f.Tests p.1.1.accept true) = decide (f.Tests p.1.1 true) :=
      decide_eq_decide.mpr tests_accept_iff
    exact congrArg _ (List.filter_congr fun p _ => same p)
  rw [apply_eq_ok_iff_live, tested, shown]

/-- **Searching commutes with committing.** A filter is resolved alike before and after the changes of a
table are accepted, and it has a view after exactly if it had one before. Each row in view after is the one
that stood at its place among the rows that were not deleted, so the values of the rows in view are the
same, in the same order. -/
theorem apply_acceptChanges (f : ResolvedFilter) (t : Table) :
    (∀ (g : Filter) (kinds : ColumnKinds) (options : FilterOptions),
      g.resolve t.acceptChanges kinds options = g.resolve t kinds options) ∧
    ((∃ e, f.apply t.acceptChanges = .error e) ↔ ∃ e, f.apply t = .error e) ∧
    ∀ a, f.apply t = .ok a → ∃ b, f.apply t.acceptChanges = .ok b ∧
      b.map (t.liveIndices[·]?) = a.map some ∧
      b.map t.acceptChanges.values? = a.map t.values? := by
  refine ⟨Filter.resolve_columns rfl, ?_, fun a applied => ?_⟩
  · have succeeds : (∃ b, f.apply t.acceptChanges = .ok b) ↔ ∃ a, f.apply t = .ok a := by
      constructor
      · rintro ⟨b, applied⟩
        exact ⟨_, apply_eq_ok_iff_live.mpr ⟨(apply_acceptChanges_eq_ok_iff.mp applied).1, rfl⟩⟩
      · rintro ⟨a, applied⟩
        exact ⟨_, apply_acceptChanges_eq_ok_iff.mpr ⟨(apply_eq_ok_iff_live.mp applied).1, rfl⟩⟩
    rw [exists_eq_error_iff, succeeds, exists_eq_error_iff]
  · obtain ⟨tested, rfl⟩ := apply_eq_ok_iff_live.mp applied
    refine ⟨_, apply_acceptChanges_eq_ok_iff.mpr ⟨tested, rfl⟩, ?_, ?_⟩
    · have places (i : Nat) : t.liveIndices[i]? = (t.liveRows[i]?).map (·.2) := List.getElem?_map
      simp only [places]
      rw [map_getElem?_filter_zipIdx (fun p : Row × Nat => f.Tests p.1 true), List.map_map]
      rfl
    · have values (i : Nat) :
          t.acceptChanges.values? i = (t.liveRows[i]?).map (·.1.current) := by
        rw [Table.values?, Table.rows_acceptChanges, List.getElem?_map, Option.map_map]
        rfl
      rw [map_values?_shownRows, List.map_congr_left fun i _ => values i]
      exact map_getElem?_filter_zipIdx (fun p : Row × Nat => f.Tests p.1 true) _ _

/-- Two deleted rows between others, one of them with a cell that the filter could not be tested on. -/
theorem apply_acceptChanges_five_rows :
    let t : Table := ⟨"Staff", [.named "NAME" .string, .named "AGE" .number],
      [.deleted [.string "Ann", .string "old"], .modified [.null, .null] [.string "Bob", .integer 30],
        .added [.string "Cid", .null], .deleted [.string "Dan", .integer 50],
        .unchanged [.string "Eve", .decimal "31"]]⟩
    let f : ResolvedFilter := ⟨[⟨"AGE", 1, .greaterThan, .number (.ofInt 18)⟩], '%', false⟩
    f.apply t = .ok [1, 4] ∧
    ∃ b, f.apply t.acceptChanges = .ok b ∧ b.map (t.liveIndices[·]?) = [1, 4].map some ∧
      b.map t.acceptChanges.values? = [1, 4].map t.values? := by
  intro t f
  have applied : f.apply t = .ok [1, 4] := by decide +kernel
  exact ⟨applied, (apply_acceptChanges f t).2.2 [1, 4] applied⟩

end ResolvedFilter

end DataGrid
