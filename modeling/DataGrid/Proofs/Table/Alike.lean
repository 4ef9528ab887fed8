import DataGrid.Classification
import DataGrid.Proofs.Changes.Reduction
import DataGrid.Proofs.Search.Decision
import DataGrid.Proofs.Value.Numerals
import DataGrid.Table.Query
import Mathlib.Data.List.Sort

/-!
# Tables that read alike

Two tables are related if they have the same columns and the same rows with the same history, up to the
values in their cells, which are related one by one (**`Table.Related`**). Everything that is asked of a
table looks at its cells through their text, their integer, their number, and whether they are null or
blank. So nothing tells tables apart whose cells agree in these (`Value.ReadsAlike`), neither by an answer
nor by an error.

* `maxInt_congr`, `commonValue_congr`, `classify_related`: questions to a table.
* `ResolvedFilter.apply_congr`: filters. They are resolved by the columns alone (`Filter.resolve_columns`).
* `Row.Related.isWorthSaving`: what has to be saved, where baselines count as well. The places of the rows
  in a set of changes are those of **`Table.KeepsAt`**.
* **`integer_forms`**: so an integer may stand in a cell as such or as its numeral.
-/

namespace DataGrid

open Value (ReadsAlike)

/-! ## Related rows and tables -/

/-- Whether two rows have the same state and history, with values that are related one by one. -/
structure Row.Related (R : Value → Value → Prop) (r s : Row) : Prop where
  state : r.state = s.state
  current : List.Forall₂ R r.current s.current
  baseline : Option.Rel (List.Forall₂ R) r.baseline s.baseline

/-- Whether two tables have the same columns, and rows that are related one by one. -/
structure Table.Related (R : Value → Value → Prop) (t u : Table) : Prop where
  columns : t.columns = u.columns
  rows : List.Forall₂ (Row.Related R) t.rows u.rows

section relations

variable {α : Type} {R S : Value → Value → Prop} {P : α → α → Prop} {as bs : List α} {r s : Row}
  {t u : Table}

/-- At each place related lists have related members, or none. -/
theorem getElem?_of_forall₂ (related : List.Forall₂ P as bs) (i : Nat) :
    Option.Rel P as[i]? bs[i]? := by
  induction related generalizing i with
  | nil => exact .none
  | cons head _ ih =>
    cases i with
    | zero => exact .some head
    | succ i => exact ih i

/-- Related members are mapped to the same where the relation implies it. -/
theorem map_eq_of_forall₂ {β : Type} {f g : α → β} (related : List.Forall₂ P as bs)
    (same : ∀ a b, P a b → f a = g b) : as.map f = bs.map g := by
  rw [← List.forall₂_eq_eq_eq]
  exact List.rel_map (fun a b => same a b) related

/-- Rows that are related are related by every wider relation. -/
theorem Row.Related.mono (imp : ∀ v w, R v w → S v w) (related : r.Related R s) : r.Related S s where
  state := related.state
  current := related.current.imp imp
  baseline :=
    match r.baseline, s.baseline, related.baseline with
    | _, _, .none => .none
    | _, _, .some values => .some (values.imp imp)

/-- Tables that are related are related by every wider relation. -/
theorem Table.Related.mono (imp : ∀ v w, R v w → S v w) (related : t.Related R u) :
    t.Related S u where
  columns := related.columns
  rows := related.rows.imp fun _ _ row => row.mono imp

/-- In each column related rows have related cells, or none. -/
theorem Row.Related.cell? (related : r.Related R s) (column : Nat) :
    Option.Rel R (r.cell? column) (s.cell? column) :=
  getElem?_of_forall₂ related.current column

end relations

variable {rs ss : List Row} {r s : Row} {t u : Table} {v w : Value}

/-! ## Questions to a table -/

namespace Table

/-- Related tables have their columns at the same places. -/
theorem Related.columnIndex? {R : Value → Value → Prop} (related : t.Related R u) (name : String) :
    t.columnIndex? name = u.columnIndex? name := by
  rw [Table.columnIndex?, related.columns, Table.columnIndex?]

/-- A column is missing in both of two related tables or in neither. -/
theorem Related.requireColumn {R : Value → Value → Prop} (related : t.Related R u) (name : String) :
    t.requireColumn name = u.requireColumn name := by
  rw [Table.requireColumn, related.columnIndex?, Table.requireColumn]

/-- A scan for the largest integer takes the same course over rows that read alike. -/
theorem maxIntFrom_congr (rows : List.Forall₂ (Row.Related ReadsAlike) rs ss) (name : String)
    (column row : Nat) (best : Option Int64) :
    maxIntFrom name column row best rs = maxIntFrom name column row best ss := by
  induction rows generalizing row best with
  | nil => rfl
  | @cons r s rs ss head _ ih =>
    rw [maxIntFrom, maxIntFrom, cellOf, cellOf]
    match r.cell? column, s.cell? column, head.cell? column with
    | _, _, .none => rfl
    | some v, some w, .some alike =>
      show (if v.isNull then _ else _) = if w.isNull then _ else _
      simp only [alike.isNull, alike.asInteger?, alike.text, ih]

/-- Tables that read alike have the same largest integer, or the same error. -/
theorem maxInt_congr (alike : t.Related ReadsAlike u) (name : String) :
    t.maxInt name = u.maxInt name := by
  rw [maxInt, maxInt, alike.requireColumn]
  exact congrArg _ (funext fun column => maxIntFrom_congr alike.rows name column 0 none)

/-- A search for a common text takes the same course in tables that read alike. -/
theorem commonTextFrom_congr (alike : t.Related ReadsAlike u) (name : String) (column : Nat)
    (rows : List Nat) (common : Option String) :
    t.commonTextFrom name column common rows = u.commonTextFrom name column common rows := by
  induction rows generalizing common with
  | nil => rfl
  | cons row rows ih =>
    have count : t.rowCount = u.rowCount := alike.rows.length_eq
    rw [commonTextFrom, commonTextFrom, requireRow, requireRow, count]
    match t.rows[row]?, u.rows[row]?, getElem?_of_forall₂ alike.rows row with
    | _, _, .none => rfl
    | some r, some s, .some related =>
      show (cellOf r row column name >>= _) = cellOf s row column name >>= _
      rw [cellOf, cellOf]
      match r.cell? column, s.cell? column, related.cell? column with
      | _, _, .none => rfl
      | some v, some w, .some cells =>
        cases common with
        | none =>
          show t.commonTextFrom name column (some v.text) rows =
            u.commonTextFrom name column (some w.text) rows
          rw [cells.text, ih]
        | some text =>
          show (if v.text = text then _ else _) = if w.text = text then _ else _
          rw [cells.text, ih]

/-- Rows of tables that read alike have the same text in common. -/
theorem commonValue_congr (alike : t.Related ReadsAlike u) (rows : List Nat) (name : String) :
    t.commonValue rows name = u.commonValue rows name := by
  rw [commonValue, commonValue, alike.requireColumn]
  exact congrArg _ (funext fun column => commonTextFrom_congr alike name column rows none)

/-- Columns that read alike show the same texts. -/
theorem columnTexts_congr (alike : t.Related ReadsAlike u) (column : Nat) :
    t.columnTexts column = u.columnTexts column := by
  have cells : List.Forall₂ ReadsAlike (t.rows.filterMap (·.cell? column))
      (u.rows.filterMap (·.cell? column)) :=
    List.rel_filterMap (fun _ _ row => row.cell? column) alike.rows
  have shown := List.rel_filter (p := fun v => !v.isNull) (q := fun v => !v.isNull)
    (fun _ _ cell => by simp [cell.isNull]) cells
  exact map_eq_of_forall₂ shown fun _ _ cell => cell.text

end Table

/-- Tables that read alike are classified alike. -/
theorem classify_related (alike : t.Related ReadsAlike u) (options : ClassifierOptions) :
    classify t options = classify u options := by
  have kind : classifyColumn t options = classifyColumn u options := by
    funext index column
    rw [classifyColumn, Table.columnTexts_congr alike, classifyColumn]
  rw [classify, kind, alike.columns, classify]

/-! ## Filters -/

namespace ResolvedFilter

/-- A comparison tells cells that read alike not apart, whatever it tests for. -/
theorem satisfies_congr (alike : v.ReadsAlike w) (f : ResolvedFilter) (c : ResolvedComparison)
    (row : Nat) : f.satisfies c row v = f.satisfies c row w := by
  simp only [satisfies, alike.text, alike.asNumber?]

/-- A comparison tells rows that read alike not apart. -/
theorem accepts_congr (alike : r.Related ReadsAlike s) (f : ResolvedFilter) (row : Nat)
    (c : ResolvedComparison) : f.accepts row r c = f.accepts row s c := by
  have cells : ((r.cell? c.index).getD .null).ReadsAlike ((s.cell? c.index).getD .null) :=
    match r.cell? c.index, s.cell? c.index, alike.cell? c.index with
    | _, _, .none => Value.readsAlike_refl .null
    | _, _, .some cell => cell
  cases null : ((s.cell? c.index).getD .null).isNull with
  | true =>
    rw [accepts_null (Value.isNull_iff.mp null),
      accepts_null (Value.isNull_iff.mp (cells.isNull.trans null))]
  | false =>
    rw [accepts_eq_satisfies rfl null, accepts_eq_satisfies rfl (cells.isNull.trans null),
      satisfies_congr cells]

/-- A filter tells rows that read alike not apart. -/
theorem matchesRow_congr (alike : r.Related ReadsAlike s) (f : ResolvedFilter) (row : Nat) :
    f.matchesRow row r = f.matchesRow row s := by
  rw [matchesRow, matchesRow]
  induction f.comparisons with
  | nil => rfl
  | cons c cs ih => rw [acceptsAll, acceptsAll, accepts_congr alike, ih]

/-- From rows that read alike a filter takes those at the same places, or fails at the same one. -/
theorem applyFrom_congr (rows : List.Forall₂ (Row.Related ReadsAlike) rs ss) (f : ResolvedFilter)
    (index : Nat) : f.applyFrom index rs = f.applyFrom index ss := by
  induction rows generalizing index with
  | nil => rfl
  | cons head _ ih => rw [applyFrom, applyFrom, head.state, matchesRow_congr head, ih]

/-- In tables that read alike a filter finds the same rows. -/
theorem apply_congr (alike : t.Related ReadsAlike u) (f : ResolvedFilter) : f.apply t = f.apply u :=
  applyFrom_congr alike.rows f 0

end ResolvedFilter

/-! ## Changes -/

/-- Whether one cell differs from another does not change where both are exchanged for cells that read
alike. -/
theorem Value.differs_congr {v' w' : Value} (alike : v.ReadsAlike v') (alike' : w.ReadsAlike w') :
    v.differs w = v'.differs w' := by
  rw [Bool.eq_iff_iff, differs_iff, differs_iff, alike.isNull, alike.text, alike'.isNull, alike'.text]

/-- Whether some cell differs from its baseline does not change either. -/
theorem any_differs_congr {vs vs' ws ws' : List Value} (now : List.Forall₂ ReadsAlike vs vs')
    (before : List.Forall₂ ReadsAlike ws ws') :
    ((vs.zip ws).any fun (v, w) => v.differs w) = (vs'.zip ws').any fun (v, w) => v.differs w := by
  induction now generalizing ws ws' with
  | nil => rfl
  | cons head _ ih =>
    cases before with
    | nil => rfl
    | cons head' tail' =>
      simp only [List.zip_cons_cons, List.any_cons, Value.differs_congr head head', ih tail']

namespace Row.Related

/-- Of rows that read alike both are blank or neither. -/
theorem isBlank (alike : r.Related ReadsAlike s) : r.isBlank = s.isBlank := by
  have blanks : r.current.map Value.isBlank = s.current.map Value.isBlank :=
    map_eq_of_forall₂ alike.current fun _ _ cell => cell.isBlank
  have all (row : Row) : row.isBlank = (row.current.map Value.isBlank).all id := by
    rw [List.all_map]
    rfl
  rw [all, all, blanks]

/-- Of rows that read alike both are really modified or neither. -/
theorem isReallyModified (alike : r.Related ReadsAlike s) :
    r.isReallyModified = s.isReallyModified := by
  have baselines := alike.baseline
  rw [Row.isReallyModified, Row.isReallyModified]
  -- Either both rows have a baseline or neither has.
  generalize r.baseline = before at baselines ⊢
  generalize s.baseline = before' at baselines ⊢
  cases baselines with
  | none => rfl
  | some values =>
    simp only [alike.current.length_eq, values.length_eq, any_differs_congr alike.current values]

/-- Of rows that read alike both have to be saved or neither. -/
theorem isWorthSaving (alike : r.Related ReadsAlike s) : r.isWorthSaving = s.isWorthSaving := by
  rw [Row.isWorthSaving, alike.state, alike.isBlank, alike.isReallyModified, Row.isWorthSaving]

end Row.Related

/-- Whether the changes of a table are its rows at some places, which are those of the rows that have to be
saved, in order and each once. -/
structure Table.KeepsAt (t : Table) (places : List Nat) : Prop where
  ascending : places.Pairwise (· < ·)
  rows : ∀ name, (t.changes name).rows = places.filterMap (t.rows[·]?)
  mem_iff : ∀ k, k ∈ places ↔ ∃ r, t.rows[k]? = some r ∧ r.isWorthSaving = true

/-- The changes of a table are its rows at some places. -/
theorem Table.exists_keepsAt (t : Table) : ∃ places, t.KeepsAt places := by
  obtain ⟨places, ascending, rows, mem⟩ := exists_places_keepRows (fun _ r => r.isWorthSaving) t.rows
  exact ⟨places, ascending, fun _ => rows, mem⟩

/-- The changes of tables that read alike stand at the same places. -/
theorem Table.exists_keepsAt_both (alike : t.Related ReadsAlike u) :
    ∃ places, t.KeepsAt places ∧ u.KeepsAt places := by
  obtain ⟨places, keeps⟩ := t.exists_keepsAt
  obtain ⟨places', keeps'⟩ := u.exists_keepsAt
  have saved (k : Nat) : (∃ r, t.rows[k]? = some r ∧ r.isWorthSaving = true) ↔
      ∃ s, u.rows[k]? = some s ∧ s.isWorthSaving = true :=
    match t.rows[k]?, u.rows[k]?, getElem?_of_forall₂ alike.rows k with
    | _, _, .none => by simp
    | _, _, .some row => by simp [row.isWorthSaving]
  -- Places in ascending order are known from their members.
  have same : places = places' := keeps.ascending.eq_of_mem_iff keeps'.ascending fun k => by
    rw [keeps.mem_iff, keeps'.mem_iff, saved]
  exact ⟨places, keeps, same ▸ keeps'⟩

/-! ## Integers in several forms -/

/-- **How an integer is stored makes no difference.** In each of its three forms it has the same text, is
not blank, is read as itself and has the same nearest number. So cells of these forms can be exchanged for
one another anywhere in a table, in the current values and in the baselines: the largest integer of a
column, the text that rows have in common, the kinds of the columns and what a filter leaves in view stay
the same, with all errors, and so do the places of the rows that have to be saved. -/
theorem integer_forms :
    (∀ (n : Int64) (v : Value), v.Holds n →
      v.text = String.ofList (Integer64.text n) ∧ v.isBlank = false ∧ v.asInteger? = some n ∧
        v.asNumber? = some (.ofInt n.toInt)) ∧
    ∀ t u : Table, t.Related Value.Interchangeable u →
      (∀ name, t.maxInt name = u.maxInt name) ∧
      (∀ rows name, t.commonValue rows name = u.commonValue rows name) ∧
      (∀ options, classify t options = classify u options) ∧
      (∀ (f : Filter) (kinds : ColumnKinds) (options : FilterOptions),
        f.resolve t kinds options = f.resolve u kinds options) ∧
      (∀ f : ResolvedFilter, f.apply t = f.apply u) ∧
      ∃ places, t.KeepsAt places ∧ u.KeepsAt places := by
  refine ⟨fun n v h => ⟨h.text, h.isBlank, h.asInteger?, h.asNumber?⟩, fun t u related => ?_⟩
  have alike : t.Related ReadsAlike u := related.mono fun _ _ => Value.Interchangeable.readsAlike
  exact ⟨Table.maxInt_congr alike, Table.commonValue_congr alike, classify_related alike,
    Filter.resolve_columns alike.columns, ResolvedFilter.apply_congr alike,
    Table.exists_keepsAt_both alike⟩

/-- The least integer and one with no number of its own, in the current values and in a baseline, and a
check box in a column of texts whose literals are numerals. -/
theorem integer_forms_two_rows :
    let least : Int64 := Int64.minValue
    let odd : Int64 := 9007199254740993
    let one : Int64 := 1
    let columns : List Column := [.named "ID" .number, .named "ACTIVE" .string]
    let t : Table := ⟨"Staff", columns, [.modified [.integer least, .integer one] [.integer odd, .null],
      .added [.decimal (String.ofList (Integer64.text least)), .integer one]]⟩
    let u : Table := ⟨"Staff", columns,
      [.modified [.string (String.ofList (Integer64.text least)), .integer one]
        [.decimal (String.ofList (Integer64.text odd)), .null],
      .added [.integer least, .string (String.ofList (Integer64.text one))]]⟩
    let options : ClassifierOptions := ⟨⟨"1", "0", "?"⟩, .allLiterals⟩
    let f : ResolvedFilter := ⟨[⟨"ID", 0, .lessThan, .number (.ofInt 0)⟩], '%', false⟩
    (t.Related Value.Interchangeable u ∧ t ≠ u ∧ f.apply t = .ok [1] ∧ t.maxInt "ID" = .ok (some odd) ∧
      (classify t options).get? "ACTIVE" = some .booleanEnum) ∧
    t.maxInt "ID" = u.maxInt "ID" ∧ t.commonValue [1, 1] "ACTIVE" = u.commonValue [1, 1] "ACTIVE" ∧
    classify t options = classify u options ∧ f.apply t = f.apply u ∧
    ∃ places, t.KeepsAt places ∧ u.KeepsAt places := by
  intro least odd one columns t u options f
  have first : (t.rows[0]).Related Value.Interchangeable u.rows[0] :=
    ⟨rfl, .cons (.inr ⟨odd, .integer, .decimal⟩) (.cons (.inl rfl) .nil),
      .some (.cons (.inr ⟨least, .integer, .string⟩) (.cons (.inl rfl) .nil))⟩
  have second : (t.rows[1]).Related Value.Interchangeable u.rows[1] :=
    ⟨rfl, .cons (.inr ⟨least, .decimal, .integer⟩) (.cons (.inr ⟨one, .integer, .string⟩) .nil), .none⟩
  have related : t.Related Value.Interchangeable u := ⟨rfl, .cons first (.cons second .nil)⟩
  obtain ⟨largest, common, kinds, -, view, saved⟩ := integer_forms.2 t u related
  exact ⟨⟨related, by decide, by decide +kernel, by decide +kernel, by decide +kernel⟩, largest "ID",
    common [1, 1] "ACTIVE", kinds options, view f, saved⟩

end DataGrid
