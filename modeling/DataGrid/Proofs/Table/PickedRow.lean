import DataGrid.Proofs.Classification.Evidence
import DataGrid.Proofs.Keyed
import DataGrid.Proofs.Table.Steps
import DataGrid.Table.Query

/-!
# A row by captions

The columns of a table have different names, but nothing keeps them from having one caption. A row that
is handed out by captions has one value for each of these, so where columns share a caption it can show
only one of them.

* **`LastWithCaption`**: the column that it shows.
* `exists_lastWithCaption`: each caption of a table has such a column.
* **`rowByCaption_shows_last`**: every row can be handed out by captions, and under the caption of a column
  it then has the value of the last column with this caption. A column is lost only to a later one with
  its caption.
* `rowByCaption_loses_column`: of two columns with one caption the first is lost.
-/

namespace DataGrid.Table

/-- Whether a column is the last one that has a caption. -/
def LastWithCaption (t : Table) (caption : String) (c : Column) : Prop :=
  ∃ front back, t.columns = front ++ c :: back ∧ c.caption = caption ∧ ∀ d ∈ back, d.caption ≠ caption

variable {t : Table} {row : Nat} {caption : String} {c : Column}

/-- Of the columns with one caption there is a last one. -/
theorem exists_lastWithCaption (h : c ∈ t.columns) : ∃ last, t.LastWithCaption c.caption last := by
  obtain ⟨last, found⟩ : ∃ last, t.columns.reverse.find? (·.caption == c.caption) = some last :=
    Option.isSome_iff_exists.mp (List.find?_isSome.mpr ⟨c, List.mem_reverse.mpr h, by simp⟩)
  obtain ⟨same, back, front, split, others⟩ := List.find?_eq_some_iff_append.mp found
  refine ⟨last, front.reverse, back.reverse, ?_, by simpa using same, fun d hd => ?_⟩
  · rw [List.reverse_eq_iff.mp split]
    simp
  · simpa using others d (List.mem_reverse.mp hd)

/-- The cell of a row in the last column with a caption, and the entries of the row by captions around
it. -/
theorem LastWithCaption.exists_entries (last : t.LastWithCaption caption c)
    (distinct : (t.columns.map (·.name)).Nodup) {r : Row} (fits : r.current.length = t.width) :
    ∃ i v front back, t.columnIndex? c.name = some i ∧ r.cell? i = some v ∧
      (t.columns.map (·.caption)).zip r.current = front ++ (caption, v) :: back ∧
        caption ∉ back.map (·.1) := by
  obtain ⟨front, back, split, rfl, later⟩ := last
  have place : t.columns[front.length]? = some c := by simp [split]
  have wide : front.length < r.current.length := by
    rw [fits, width, split, List.length_append, List.length_cons]
    omega
  have cells : r.current = r.current.take front.length ++
      r.current[front.length] :: r.current.drop (front.length + 1) := by
    rw [List.getElem_cons_drop, List.take_append_drop]
  have entries : (t.columns.map (·.caption)).zip r.current =
      (front.map (·.caption)).zip (r.current.take front.length) ++
        (c.caption, r.current[front.length]) ::
          (back.map (·.caption)).zip (r.current.drop (front.length + 1)) := by
    conv_lhs => rw [cells, split, List.map_append, List.map_cons]
    rw [List.zip_append (by simp; omega), List.zip_cons_cons]
  refine ⟨_, _, _, _, columnIndex?_of_nodup distinct place, List.getElem?_eq_getElem wide, entries, ?_⟩
  intro shown
  obtain ⟨⟨_, v⟩, mem, rfl⟩ := List.mem_map.mp shown
  obtain ⟨d, hd, same⟩ := List.mem_map.mp (List.of_mem_zip mem).1
  exact later d hd same

/-- **A row by captions shows under each caption the last column that has it.** In a table whose columns have
different names and whose rows are as wide as it is, every row can be handed out by captions. Each
caption of a column then has the value of the last column with this caption, and there are no other
captions. -/
theorem rowByCaption_shows_last (distinct : (t.columns.map (·.name)).Nodup)
    (fits : ∀ r ∈ t.rows, r.current.length = t.width) (inRange : row < t.rowCount) :
    ∃ record, t.rowByCaption row = .ok record ∧
      (∀ c ∈ t.columns, ∃ last, t.LastWithCaption c.caption last) ∧
      (∀ caption last, t.LastWithCaption caption last →
        ∃ v, t.value row last.name = .ok v ∧ record.get? caption = some v) ∧
      ∀ caption, caption ∉ t.columns.map (·.caption) → record.get? caption = none := by
  have found : t.rows[row]? = some t.rows[row] := List.getElem?_eq_getElem inRange
  have handed : t.rowByCaption row =
      .ok (.ofList ((t.columns.map (·.caption)).zip t.rows[row].current)) := by
    rw [rowByCaption, requireRow_eq_ok.mpr found]
    rfl
  refine ⟨_, handed, fun c => exists_lastWithCaption, fun caption last h => ?_, fun caption absent => ?_⟩
  · obtain ⟨i, v, front, back, index, cell, entries, unshown⟩ :=
      h.exists_entries distinct (fits _ (List.getElem_mem inRange))
    refine ⟨v, ?_, ?_⟩
    · rw [value, requireColumn_eq_ok.mpr index, requireRow_eq_ok.mpr found]
      show cellOf t.rows[row] row i last.name = .ok v
      rw [cellOf, cell]
    · rw [entries]
      exact Keyed.get?_ofList_of_last unshown
  · refine Keyed.get?_ofList_of_not_mem fun shown => absent ?_
    obtain ⟨⟨_, v⟩, mem, rfl⟩ := List.mem_map.mp shown
    exact (List.of_mem_zip mem).1

/-- A column between two with one caption. -/
theorem rowByCaption_shows_last_three_columns :
    let t : Table := ⟨"People", [(Column.named "HOME" .string).withCaption "City", .named "AGE" .number,
        (Column.named "WORK" .string).withCaption "City"],
      [.unchanged [.string "Oslo", .integer 41, .string "Bergen"]]⟩
    ((t.columns.map (·.name)).Nodup ∧ (∀ r ∈ t.rows, r.current.length = t.width) ∧ 0 < t.rowCount) ∧
    ∃ record, t.rowByCaption 0 = .ok record ∧
      (∀ c ∈ t.columns, ∃ last, t.LastWithCaption c.caption last) ∧
      (∀ caption last, t.LastWithCaption caption last →
        ∃ v, t.value 0 last.name = .ok v ∧ record.get? caption = some v) ∧
      ∀ caption, caption ∉ t.columns.map (·.caption) → record.get? caption = none := by
  intro t
  have distinct : (t.columns.map (·.name)).Nodup := by decide
  have fits : ∀ r ∈ t.rows, r.current.length = t.width := by decide
  have inRange : 0 < t.rowCount := by decide
  exact ⟨⟨distinct, fits, inRange⟩, rowByCaption_shows_last distinct fits inRange⟩

/-- **Of two columns with one caption the first is lost**, although their names are different. -/
theorem rowByCaption_loses_column :
    ∃ t₀, create "People" [(Column.named "HOME" .string).withCaption "City",
        (Column.named "WORK" .string).withCaption "City"] = .ok t₀ ∧
      ∃ t, t₀.loadRow [.string "Oslo", .string "Bergen"] = .ok t ∧
        t.value 0 "HOME" = .ok (.string "Oslo") ∧
        ∃ record, t.rowByCaption 0 = .ok record ∧ record.get? "City" = some (.string "Bergen") :=
  ⟨_, rfl, _, rfl, rfl, _, rfl, rfl⟩

end DataGrid.Table
