import DataGrid.Document.Table
import DataGrid.Proofs.Document.Fields
import DataGrid.Proofs.Table.Reachable

/-!
# Stored tables are read back

A table is read back from its document with all columns, rows and cells as they were, except that a
number that is not finite has no notation: it is stored as null, and null is no number.

* `Value.ofDocument?_toDocument`: a cell is read back exactly if it **`HasNotation`**.
* **`toDocument_roundTrip`**: so a table is read back exactly if all its cells have a notation, those of
  the baselines too. Else it is not read at all.
* `toDocument_loses_not_finite`: one such cell is enough to make a table that can be reached unreadable,
  also when it stands in a baseline alone.
-/

namespace DataGrid

open Document

/-! ## Cells -/

namespace Value

/-- Whether there is a notation for what a cell holds. Numbers that are not finite have none. -/
def hasNotation : Value → Bool
  | .float x => x.isFinite
  | _ => true

/-- There is a notation for all cells but the numbers that are not finite. -/
theorem hasNotation_iff (v : Value) :
    v.hasNotation = true ↔ ∀ x, v = .float x → x.isFinite = true := by
  cases v <;> simp [hasNotation]

/-- A byte is read back from its number. -/
theorem byte?_toNat (b : UInt8) : byte? (.integer b.toNat) = some b := by
  have lt : b.toNat < 256 := b.toNat_lt
  show (if b.toNat < 256 then some (UInt8.ofNat b.toNat) else none) = some b
  rw [if_pos lt, UInt8.ofNat_toNat]

/-- A cell is read back from its document exactly if there is a notation for it. -/
theorem ofDocument?_toDocument (v : Value) :
    ofDocument? v.toDocument = if v.hasNotation then some v else none := by
  cases v with
  | null | boolean | decimal | string => rfl
  | integer n =>
    have read : integer64? (.integer n.toInt) = some n := Integer64.ofInt?_toInt n
    simp [ofDocument?, toDocument, ofContents?, read, hasNotation]
  | float x =>
    cases finite : x.isFinite <;>
      simp [ofDocument?, toDocument, ofContents?, ofNumber, finite, number?, hasNotation]
  | bytes data =>
    have read := list?_map_of_forall byte?_toNat data
    simp [ofDocument?, toDocument, ofContents?, read, hasNotation]

end Value

/-! ## Columns and rows -/

/-- A type is read back from its name. -/
theorem ColumnType.ofDocument?_toDocument (t : ColumnType) : ofDocument? t.toDocument = some t := by
  cases t <;> rfl

/-- A column is read back from its document with all its flags. -/
theorem Column.ofDocument?_toDocument (c : Column) : ofDocument? c.toDocument = some c := by
  rw [ofDocument?, toDocument]
  simp [members?, required_cons_self, required_cons_of_ne, defaulted_cons_self, defaulted_cons_of_ne,
    ColumnType.ofDocument?_toDocument, text?, boolean?]

/-- A state is read back from its name. -/
theorem RowState.ofDocument?_toDocument (s : RowState) : ofDocument? s.toDocument = some s := by
  cases s <;> rfl

namespace Row

/-- Whether there is a notation for all cells of a row, the current ones and those of the baseline. -/
def hasNotation (r : Row) : Bool :=
  r.current.all Value.hasNotation && (r.baseline.getD []).all Value.hasNotation

/-- The cells of a row are read back exactly if there is a notation for each of them. -/
theorem list?_valuesDocument (values : List Value) :
    list? Value.ofDocument? (valuesDocument values) =
      if values.all Value.hasNotation then some values else none :=
  list?_map Value.ofDocument?_toDocument values

/-- A baseline is stored as null where there is none, and a sequence is never null. -/
theorem optional_baseline (baseline : Option (List Value)) :
    optional (list? Value.ofDocument?) [("original", baseline.elim .null valuesDocument)] "original" =
      if (baseline.getD []).all Value.hasNotation then some baseline else none := by
  rw [optional_cons_self]
  cases baseline with
  | none => rfl
  | some values =>
    show (list? Value.ofDocument? (valuesDocument values)).map some = _
    rw [list?_valuesDocument, Option.getD_some]
    cases values.all Value.hasNotation <;> rfl

/-- A row is read back exactly if there is a notation for all its cells. -/
theorem ofDocument?_toDocument (r : Row) :
    ofDocument? r.toDocument = if r.hasNotation then some r else none := by
  obtain ⟨state, current, baseline⟩ := r
  simp only [ofDocument?, toDocument, members?, required_cons_self, required_cons_of_ne,
    optional_cons_of_ne, ne_eq, String.reduceEq, not_false_eq_true, optional_baseline,
    RowState.ofDocument?_toDocument, list?_valuesDocument, hasNotation, Option.bind_eq_bind,
    Option.bind_some, Bool.false_eq_true, false_and, if_false]
  by_cases now : current.all Value.hasNotation = true
  · by_cases before : (baseline.getD []).all Value.hasNotation = true
    · simp only [now, before, Bool.and_self, if_true]
      rfl
    · simp only [before, Bool.and_false, Bool.false_eq_true, if_false, Option.bind_none,
        Option.bind_fun_none]
  · simp only [now, Bool.false_and, Bool.false_eq_true, if_false, Option.bind_none]

end Row

/-! ## Tables -/

namespace Table

/-- Whether there is a notation for all cells of a table. -/
def hasNotation (t : Table) : Bool := t.rows.all Row.hasNotation

/-- A table is read back exactly if there is a notation for all its cells. -/
theorem ofDocument?_toDocument (t : Table) :
    ofDocument? t.toDocument = if t.hasNotation then some t else none := by
  obtain ⟨name, columns, rows⟩ := t
  simp only [ofDocument?, toDocument, members?, required_cons_self, required_cons_of_ne, ne_eq,
    String.reduceEq, not_false_eq_true, list?_map_of_forall Column.ofDocument?_toDocument,
    list?_map Row.ofDocument?_toDocument, text?, hasNotation, Option.bind_eq_bind, Option.bind_some]
  by_cases all : rows.all Row.hasNotation = true
  · simp only [all, if_true]
    rfl
  · simp only [all, if_false, Bool.false_eq_true, Option.bind_none]

/-- Whether no cell of a table, now or before the first edit of its row, is a number that is not
finite. -/
def AllFinite (t : Table) : Prop :=
  ∀ r ∈ t.rows, ∀ v ∈ r.current ++ r.baseline.getD [], ∀ x, v = .float x → x.isFinite = true

/-- There is a notation for a table exactly if none of its numbers fails to be finite. -/
theorem hasNotation_iff (t : Table) : t.hasNotation = true ↔ t.AllFinite := by
  simp only [hasNotation, AllFinite, Row.hasNotation, Value.hasNotation_iff, List.all_eq_true,
    Bool.and_eq_true, List.forall_mem_append]

/-- **A table is read back from its document exactly if it has no number that is not finite.** If it
has one, the document stands for no table. -/
theorem toDocument_roundTrip (t : Table) :
    (ofDocument? t.toDocument = some t ↔ t.AllFinite) ∧
      (ofDocument? t.toDocument = none ↔ ¬ t.AllFinite) := by
  rw [ofDocument?_toDocument, ← hasNotation_iff]
  cases t.hasNotation <;> simp

/-- A loaded cell that is not-a-number, and an infinite one that an edit has replaced. The tables can be
reached, and their documents stand for no table. -/
theorem toDocument_loses_not_finite :
    let t₀ : Table := ⟨"Sums", [.named "SUM" .number], []⟩
    let t := t₀.run [.loadRow [.float .nan]]
    let u := t₀.run [.loadRow [.float (.ranked false ⟨Binary64.top, Nat.lt_succ_self _⟩)],
      .setValue 0 "SUM" (.integer 0)]
    (t.Reachable ∧ ofDocument? t.toDocument = none) ∧ u.Reachable ∧ ofDocument? u.toDocument = none := by
  intro t₀ t u
  have reached (edits : List Edit) (made : ∀ e ∈ edits, e.rowsIn = []) : (t₀.run edits).Reachable :=
    reachable_run (by decide) fun e he r hr => by simp [made e he] at hr
  refine ⟨⟨reached _ (by simp [Edit.rowsIn]), ?_⟩, reached _ (by simp [Edit.rowsIn]), ?_⟩
  · rw [ofDocument?_toDocument]
    decide
  · rw [ofDocument?_toDocument]
    decide +kernel

end Table

end DataGrid
