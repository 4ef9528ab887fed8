import DataGrid.Classification
import DataGrid.Proofs.Keyed

/-!
# What the kind of a column depends on

A column that is declared to hold texts is looked through row by row for the literals of a check box.
What comes of it can be said without looking through anything: by the set of values that the column
shows, where a value counts once however often it is there (**`Table.Shows`**). All other columns have
the kind that their type stands for.

* **`Table.LooksBoolean`**: whether the values of a column are evidence for a check box.
* `get?_classify_iff`: as long as the names of the columns are different, the kinds that a table is
  classified with are those of its columns.
* `classifyColumn_eq_booleanEnum_iff`: a column is a check-box column exactly if it is declared to hold
  texts and its values are evidence for a check box.
* `classify_congr`: tables of the same columns that show the same values have the same kinds.
* **`classify_follows_evidence`**: so the kinds do not depend on the order of the rows, on how often a row
  is there, or on what has become of it; and texts that are evidence when all of them are asked for are
  so when one is enough.
-/

namespace DataGrid

/-! ## Evidence -/

/-- Whether the text of a value is the literal for true or the literal for false. -/
def Value.IsLiteral (v : Value) (tokens : BooleanTokens) : Prop :=
  v.text = tokens.trueValue ∨ v.text = tokens.falseValue

namespace Table

/-- Whether a value stands in a column, in some row as it is now, and is not null. -/
def Shows (t : Table) (index : Nat) (v : Value) : Prop :=
  ∃ r ∈ t.rows, r.cell? index = some v ∧ v ≠ .null

/-- Whether the values in a column are evidence for a check box: there are some, and of these all, or at
least one, are literals, as the rule of the classification has it. -/
def LooksBoolean (t : Table) (options : ClassifierOptions) (index : Nat) : Prop :=
  (∃ v, t.Shows index v) ∧
    match options.evidence with
    | .allLiterals => ∀ v, t.Shows index v → v.IsLiteral options.tokens
    | .anyLiteral => ∃ v, t.Shows index v ∧ v.IsLiteral options.tokens

end Table

variable {t t' : Table} {options : ClassifierOptions} {tokens : BooleanTokens} {index : Nat}
  {column : Column} {name : String} {kind : Kind}

/-- The test for literals looks at the text of a value alone. -/
theorem BooleanTokens.isLiteral_text_iff {v : Value} :
    tokens.isLiteral v.text = true ↔ v.IsLiteral tokens := by
  rw [isLiteral, Bool.or_eq_true, beq_iff_eq, beq_iff_eq]
  exact Iff.rfl

/-- The texts that a scan of a column collects are those of the values that the column shows. -/
theorem Table.mem_columnTexts_iff {text : String} :
    text ∈ t.columnTexts index ↔ ∃ v, t.Shows index v ∧ v.text = text := by
  simp only [columnTexts, List.mem_map, List.mem_filter, List.mem_filterMap, Bool.not_eq_true',
    Value.isNull_eq_false_iff]
  constructor
  · rintro ⟨v, ⟨⟨r, mem, cell⟩, shown⟩, rfl⟩
    exact ⟨v, ⟨r, mem, cell, shown⟩, rfl⟩
  · rintro ⟨v, ⟨r, mem, cell, shown⟩, rfl⟩
    exact ⟨v, ⟨⟨r, mem, cell⟩, shown⟩, rfl⟩

/-- The scan of a column finds out whether its values are evidence for a check box. -/
theorem Evidence.accepts_columnTexts_iff :
    options.evidence.accepts options.tokens (t.columnTexts index) = true ↔
      t.LooksBoolean options index := by
  have shows : (∃ text, text ∈ t.columnTexts index) ↔ ∃ v, t.Shows index v := by
    simp [Table.mem_columnTexts_iff]
  unfold accepts Table.LooksBoolean
  cases options.evidence with
  | allLiterals =>
    rw [Bool.and_eq_true, Bool.not_eq_true', List.isEmpty_eq_false_iff_exists_mem, shows,
      List.all_eq_true]
    simp [Table.mem_columnTexts_iff, ← BooleanTokens.isLiteral_text_iff]
  | anyLiteral =>
    -- A literal that is found shows by itself that there are values.
    simp only [List.any_eq_true, Table.mem_columnTexts_iff, ← BooleanTokens.isLiteral_text_iff]
    constructor
    · rintro ⟨_, ⟨v, shows, rfl⟩, literal⟩
      exact ⟨⟨v, shows⟩, v, shows, literal⟩
    · rintro ⟨-, v, shows, literal⟩
      exact ⟨_, ⟨v, shows, rfl⟩, literal⟩

/-- Where all texts are evidence, one of them is. -/
theorem Table.LooksBoolean.anyLiteral (h : t.LooksBoolean ⟨tokens, .allLiterals⟩ index) :
    t.LooksBoolean ⟨tokens, .anyLiteral⟩ index := by
  obtain ⟨⟨v, shows⟩, all⟩ := h
  exact ⟨⟨v, shows⟩, v, shows, all v shows⟩

/-! ## One column -/

/-- No type by itself makes a column a check box. -/
theorem Kind.ofDeclared_ne_booleanEnum (type : ColumnType) : ofDeclared type ≠ .booleanEnum := by
  cases type <;> exact Kind.noConfusion

/-- A column is a check box exactly if it is one of texts and its values are evidence for it. -/
theorem classifyColumn_eq_booleanEnum_iff :
    classifyColumn t options index column = .booleanEnum ↔
      column.type = .string ∧ t.LooksBoolean options index := by
  rw [classifyColumn, ← Evidence.accepts_columnTexts_iff]
  split_ifs with evidence
  · exact iff_of_true rfl evidence
  · exact iff_of_false (Kind.ofDeclared_ne_booleanEnum _) evidence

/-- A column that is no check box has the kind of its type. -/
theorem classifyColumn_of_ne (h : classifyColumn t options index column ≠ .booleanEnum) :
    classifyColumn t options index column = .ofDeclared column.type := by
  unfold classifyColumn at *
  split_ifs at * with evidence
  · exact absurd rfl h
  · rfl

/-- A column is classified by its type and by the values that it shows. -/
theorem classifyColumn_congr (same : ∀ v, t.Shows index v ↔ t'.Shows index v) :
    classifyColumn t options index column = classifyColumn t' options index column := by
  have evidence : options.evidence.accepts options.tokens (t.columnTexts index) =
      options.evidence.accepts options.tokens (t'.columnTexts index) := by
    rw [Bool.eq_iff_iff, Evidence.accepts_columnTexts_iff, Evidence.accepts_columnTexts_iff]
    simp only [Table.LooksBoolean, same]
  rw [classifyColumn, evidence, classifyColumn]

/-! ## All columns -/

/-- Where the names are different, each column is found under its own. -/
theorem columnIndex?_of_nodup (distinct : (t.columns.map (·.name)).Nodup)
    (h : t.columns[index]? = some column) : t.columnIndex? column.name = some index := by
  obtain ⟨lt, rfl⟩ := List.getElem?_eq_some_iff.mp h
  have apart : t.columns.Pairwise fun c d => c.name ≠ d.name := List.pairwise_map.mp distinct
  refine List.findIdx?_eq_some_iff_getElem.mpr ⟨lt, beq_self_eq_true _, ?_⟩
  intro j before
  rw [Bool.not_eq_true, beq_eq_false_iff_ne]
  exact List.pairwise_iff_getElem.mp apart j index (Nat.lt_trans before lt) lt before

/-- The columns of a table by name, each with its kind. -/
def Table.namedKinds (t : Table) (options : ClassifierOptions) : List (String × Kind) :=
  t.columns.zipIdx.map fun (column, index) => (column.name, classifyColumn t options index column)

/-- The kind that is listed at an index is that of the column there. -/
theorem Table.getElem?_namedKinds : (t.namedKinds options)[index]? =
    (t.columns[index]?).map fun column => (column.name, classifyColumn t options index column) := by
  rw [namedKinds, List.getElem?_map, List.getElem?_zipIdx, Nat.zero_add, Option.map_map]
  rfl

/-- The kinds are listed under the names of the columns, in order. -/
theorem Table.map_fst_namedKinds : (t.namedKinds options).map (·.1) = t.columns.map (·.name) := by
  have names : t.columns.zipIdx.map (Column.name ∘ Prod.fst) = t.columns.map (·.name) := by
    rw [← List.map_map, List.zipIdx_map_fst]
  rw [namedKinds, List.map_map]
  exact names

/-- What is listed is a column's name with the kind of this column. -/
theorem Table.mem_namedKinds_iff : (name, kind) ∈ t.namedKinds options ↔
    ∃ index column, t.columns[index]? = some column ∧ column.name = name ∧
      classifyColumn t options index column = kind := by
  simp only [namedKinds, List.mem_map, Prod.exists, List.mk_mem_zipIdx_iff_getElem?, Prod.mk.injEq]
  exact exists_comm

/-- Where the names are different, the kinds are kept for all columns and in their order. -/
theorem entries_classify (distinct : (t.columns.map (·.name)).Nodup) :
    (classify t options).entries = t.namedKinds options :=
  Keyed.entries_ofList (Table.map_fst_namedKinds ▸ distinct)

/-- The kinds of a table are the kinds of its columns. -/
theorem get?_classify_iff (distinct : (t.columns.map (·.name)).Nodup) :
    (classify t options).get? name = some kind ↔
      ∃ index column, t.columns[index]? = some column ∧ column.name = name ∧
        classifyColumn t options index column = kind := by
  have names : ((t.namedKinds options).map (·.1)).Nodup := Table.map_fst_namedKinds ▸ distinct
  exact (Keyed.get?_ofList_iff names).trans Table.mem_namedKinds_iff

/-- The kind of the column at an index is found under its name. -/
theorem get?_classify (distinct : (t.columns.map (·.name)).Nodup)
    (found : t.columns[index]? = some column) :
    (classify t options).get? column.name = some (classifyColumn t options index column) :=
  (get?_classify_iff distinct).mpr ⟨index, column, found, rfl, rfl⟩

/-- Tables with the same columns that show the same are classified alike. -/
theorem classify_congr (columns : t.columns = t'.columns)
    (same : ∀ index v, t.Shows index v ↔ t'.Shows index v) :
    classify t options = classify t' options := by
  have kind (index : Nat) (column : Column) :
      classifyColumn t options index column = classifyColumn t' options index column :=
    classifyColumn_congr (same index)
  simp only [classify, columns, kind]

/-- Rows with the same current values show the same, in whatever order and however often they stand
there, and whatever their states and baselines are. -/
theorem Table.shows_congr {rows : List Row}
    (same : ∀ values, values ∈ rows.map (·.current) ↔ values ∈ t.rows.map (·.current)) (index : Nat)
    (v : Value) : Shows { t with rows } index v ↔ t.Shows index v := by
  have shows (s : Table) :
      s.Shows index v ↔ ∃ values ∈ s.rows.map (·.current), values[index]? = some v ∧ v ≠ .null := by
    simp [Shows, Row.cell?]
  simp only [shows, same]

/-- **The kinds of columns follow from the evidence alone.** There is one for each column, in order: that
of a check box exactly if the column is declared to hold texts and its values are evidence for a check
box, and else the one that its type stands for. The kinds stay the same whatever is done to the rows that
leaves the same lists of current values among them. What is a check-box column when all texts have to be
literals is one when a single literal is enough. -/
theorem classify_follows_evidence (distinct : (t.columns.map (·.name)).Nodup)
    (options : ClassifierOptions) :
    (classify t options).entries.map (·.1) = t.columns.map (·.name) ∧
    (∀ index column, t.columns[index]? = some column → ∃ kind,
      (classify t options).entries[index]? = some (column.name, kind) ∧
      (classify t options).get? column.name = some kind ∧
      (kind = .booleanEnum ↔ column.type = .string ∧ t.LooksBoolean options index) ∧
      (kind ≠ .booleanEnum → kind = .ofDeclared column.type)) ∧
    (∀ rows : List Row,
      (∀ values, values ∈ rows.map (·.current) ↔ values ∈ t.rows.map (·.current)) →
        classify { t with rows } options = classify t options) ∧
    (∀ name, (classify t ⟨options.tokens, .allLiterals⟩).get? name = some .booleanEnum →
      (classify t ⟨options.tokens, .anyLiteral⟩).get? name = some .booleanEnum) := by
  refine ⟨?_, fun index column found => ?_, fun rows same => ?_, fun name box => ?_⟩
  · rw [entries_classify distinct, Table.map_fst_namedKinds]
  · refine ⟨classifyColumn t options index column, ?_, get?_classify distinct found,
      classifyColumn_eq_booleanEnum_iff, classifyColumn_of_ne⟩
    rw [entries_classify distinct, Table.getElem?_namedKinds, found]
    rfl
  · exact classify_congr rfl (Table.shows_congr same)
  · obtain ⟨index, column, found, rfl, all⟩ := (get?_classify_iff distinct).mp box
    obtain ⟨string, looks⟩ := classifyColumn_eq_booleanEnum_iff.mp all
    rw [get?_classify distinct found, classifyColumn_eq_booleanEnum_iff.mpr ⟨string, looks.anyLiteral⟩]

/-- A column with a null cell and two literals, in rows that change places, are there twice and have been
edited or deleted. -/
theorem classify_follows_evidence_six_rows :
    let t : Table := ⟨"Staff", [.named "ACTIVE" .string, .named "AGE" .number],
      [.unchanged [.string "TRUE", .null], .added [.null, .integer 30],
        .deleted [.decimal "FALSE", .string "old"]]⟩
    let rows : List Row := [.modified [.string "N/A", .null] [.null, .integer 30],
      .unchanged [.decimal "FALSE", .string "old"], .added [.string "TRUE", .null],
      .unchanged [.null, .integer 30], .deleted [.string "TRUE", .null],
      .unchanged [.decimal "FALSE", .string "old"]]
    (t.columns.map (·.name)).Nodup ∧
    (∀ values, values ∈ rows.map (·.current) ↔ values ∈ t.rows.map (·.current)) ∧
    (classify t {}).get? "ACTIVE" = some .booleanEnum ∧
    (∃ kind, (classify t {}).entries[0]? = some ("ACTIVE", kind) ∧
      (classify t {}).get? "ACTIVE" = some kind ∧
      (kind = .booleanEnum ↔ ColumnType.string = .string ∧ t.LooksBoolean {} 0) ∧
      (kind ≠ .booleanEnum → kind = .ofDeclared .string)) ∧
    classify { t with rows } {} = classify t {} ∧
    (classify t ⟨{}, .anyLiteral⟩).get? "ACTIVE" = some .booleanEnum := by
  intro t rows
  have distinct : (t.columns.map (·.name)).Nodup := by decide
  have same : ∀ values, values ∈ rows.map (·.current) ↔ values ∈ t.rows.map (·.current) := by
    intro values
    simp only [rows, t, Row.modified, Row.unchanged, Row.added, Row.deleted, List.map_cons,
      List.map_nil, List.mem_cons, List.not_mem_nil, or_false]
    tauto
  have box : (classify t {}).get? "ACTIVE" = some .booleanEnum := by decide
  obtain ⟨-, kinds, rearranged, one⟩ := classify_follows_evidence distinct {}
  exact ⟨distinct, same, box, kinds 0 _ rfl, rearranged rows same, one "ACTIVE" box⟩

end DataGrid
