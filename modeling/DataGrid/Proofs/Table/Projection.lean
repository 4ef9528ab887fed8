import DataGrid.Table.Edit
import Mathlib.Data.List.Basic

/-!
# Which rows a projection keeps

A projection lists the rows that a test accepts. Two rows of a table may be alike, so which of them are
there is said by their places: **`exists_places_keepRows`** gives the places of the rows that are kept,
in ascending order, as those that the test accepts.
-/

namespace DataGrid.Table

/-- The rows that are kept, each taken together with its place. -/
theorem keepRows_eq_zipIdx (keep : Nat → Row → Bool) (index : Nat) (rows : List Row) :
    keepRows keep index rows =
      ((rows.zipIdx index).filter fun p => keep p.2 p.1).map (·.1) := by
  induction rows generalizing index with
  | nil => rfl
  | cons r rows ih =>
    rw [keepRows, List.zipIdx_cons, List.filter_cons]
    split
    · rw [List.map_cons, ih]
    · exact ih (index + 1)

/-- A test that does not look at places keeps what a filter keeps. -/
theorem keepRows_eq_filter (p : Row → Bool) (index : Nat) (rows : List Row) :
    keepRows (fun _ r => p r) index rows = rows.filter p := by
  induction rows generalizing index with
  | nil => rfl
  | cons r rows ih => rw [keepRows, List.filter_cons, ih]

/-- Only rows that are there are kept. -/
theorem mem_of_mem_keepRows {keep : Nat → Row → Bool} {index : Nat} {rows : List Row} {r : Row}
    (h : r ∈ keepRows keep index rows) : r ∈ rows := by
  rw [keepRows_eq_zipIdx] at h
  obtain ⟨p, hp, rfl⟩ := List.mem_map.mp h
  rw [← List.zipIdx_map_fst index rows]
  exact List.mem_map_of_mem (List.mem_filter.mp hp).1

/-- **The rows that are kept stand in the order of their places, each once.** -/
theorem exists_places_keepRows (keep : Nat → Row → Bool) (rows : List Row) :
    ∃ places : List Nat, places.Pairwise (· < ·) ∧
      keepRows keep 0 rows = places.filterMap (rows[·]?) ∧
      ∀ k, k ∈ places ↔ ∃ r, rows[k]? = some r ∧ keep k r = true := by
  let kept := rows.zipIdx.filter fun p => keep p.2 p.1
  have found : ∀ p ∈ kept, rows[p.2]? = some p.1 := fun p hp =>
    List.mk_mem_zipIdx_iff_getElem?.mp (List.mem_filter.mp hp).1
  refine ⟨kept.map (·.2), ?_, ?_, fun k => ?_⟩
  · have sub : (kept.map (·.2)).Sublist (rows.zipIdx.map (·.2)) :=
      List.filter_sublist.map _
    rw [List.zipIdx_map_snd, ← List.range_eq_range'] at sub
    exact List.pairwise_lt_range.sublist sub
  · rw [keepRows_eq_zipIdx, List.filterMap_map, ← List.filterMap_eq_map]
    exact List.filterMap_congr fun p hp => (found p hp).symm
  · constructor
    · intro hk
      obtain ⟨p, hp, rfl⟩ := List.mem_map.mp hk
      exact ⟨p.1, found p hp, (List.mem_filter.mp hp).2⟩
    · rintro ⟨r, hr, accepted⟩
      have mem : (r, k) ∈ kept :=
        List.mem_filter.mpr ⟨List.mk_mem_zipIdx_iff_getElem?.mpr hr, accepted⟩
      exact List.mem_map.mpr ⟨(r, k), mem, rfl⟩

end DataGrid.Table
