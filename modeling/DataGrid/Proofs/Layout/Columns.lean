import DataGrid.Layout
import DataGrid.Proofs.Classification.Evidence
import DataGrid.Proofs.Search.Decision
import Mathlib.Data.List.Nodup

/-!
# The layout of each column

Columns and their kinds are paired by position, while the kinds are kept by name. So as long as the names
are different, each column of a table is laid out with its own kind.

* **`getElem?_columns_build`**: the layout of the column at an index is that of the column at the index
  of the table, with the kind that it is classified as.
* `kinds_build`, `column?_build`: the kinds of the layout are those of the classification, in the same
  order, and a column is found by its name.
* **`ColumnLayout.Describes`**: what the kind, the name and the flags of a column call for.
* **`build_describes_columns`**: the layout has one description for each column, in order and under its
  name, and it is what the column calls for.
* **`findKind?_build`**: by the kinds of the layout a filter finds each column at its own index with its
  own kind.
-/

namespace DataGrid

/-- Whether a layout shows a column as one of some kind, in the way that the kind, the name and the flags
of the column call for. -/
structure ColumnLayout.Describes (l : ColumnLayout) (c : Column) (kind : Kind)
    (tokens : BooleanTokens) (options : LayoutOptions) : Prop where
  name : l.name = c.name
  caption : l.caption = Caption.display c.caption
  textBox : l.widget = .textBox ↔ kind = .string ∨ kind = .numeric ∨ kind = .other
  image : l.widget = .image ↔ kind = .binary
  checkBox : ∀ literals, l.widget = .checkBox literals ↔ kind = .booleanEnum ∧ literals = tokens
  alignRight : l.alignRight = true ↔ kind = .numeric
  numberFormat : ∀ format,
    l.numberFormat = some format ↔ kind = .numeric ∧ format = options.numericFormat
  visible : l.visible = true ↔ c.name ∉ options.hiddenColumns
  editable : l.editable = true ↔ c.editAllowed = true ∧ c.isFunction = false
  isFunction : l.isFunction = c.isFunction
  kind : l.kind = kind

/-- Whether a layout describes the columns of a table, each with the kind that it is classified as. -/
structure TableLayout.Describes (layout : TableLayout) (t : Table) (classifier : ClassifierOptions)
    (options : LayoutOptions) : Prop where
  /-- There is one description for each column, in order. -/
  names : layout.columns.map (·.name) = t.columns.map (·.name)
  /-- It is found under the name of the column, and it is what the column calls for. -/
  columns : ∀ (index : Nat) (column : Column), t.columns[index]? = some column → ∃ l kind,
    layout.columns[index]? = some l ∧ layout.column? column.name = some l ∧
      (classify t classifier).get? column.name = some kind ∧
      l.Describes column kind classifier.tokens options
  /-- A name that no column has is found neither here nor there. -/
  lookup : ∀ name, (layout.column? name).map (·.kind) = (classify t classifier).get? name
  kinds : layout.kinds = classify t classifier

variable {t : Table} {classifier : ClassifierOptions} {options : LayoutOptions} {index : Nat}
  {l : ColumnLayout} {column : Column} {layout : TableLayout}

/-! ## One column -/

/-- The layout of a column with a kind is what the kind, the name and the flags of the column call for.
-/
theorem Column.describes_layout (c : Column) (kind : Kind) (tokens : BooleanTokens)
    (options : LayoutOptions) : (c.layout kind tokens options).Describes c kind tokens options where
  name := rfl
  caption := rfl
  textBox := by
    show Widget.ofKind tokens kind = .textBox ↔ _
    cases kind <;> simp [Widget.ofKind]
  image := by
    show Widget.ofKind tokens kind = .image ↔ _
    cases kind <;> simp [Widget.ofKind]
  checkBox := by
    intro literals
    show Widget.ofKind tokens kind = .checkBox literals ↔ _
    cases kind <;> simp [Widget.ofKind, eq_comm]
  alignRight := beq_iff_eq
  numberFormat := by
    intro format
    show (if kind = .numeric then some options.numericFormat else none) = some format ↔ _
    split_ifs with numeric
    · simp [numeric, eq_comm]
    · simp [numeric]
  visible := by simp [layout]
  editable := by simp [layout]
  isFunction := rfl
  kind := rfl

/-! ## Columns by name -/

/-- Where the names are different, each description is found under its own. -/
theorem TableLayout.column?_of_nodup (distinct : (layout.columns.map (·.name)).Nodup)
    (mem : l ∈ layout.columns) : layout.column? l.name = some l := by
  have named : (layout.columns.find? (·.name == l.name)).isSome := by
    rw [List.find?_isSome]
    exact ⟨l, mem, beq_self_eq_true _⟩
  obtain ⟨found, h⟩ := Option.isSome_iff_exists.mp named
  have same : found.name = l.name := by simpa using List.find?_some h
  obtain rfl : found = l :=
    List.inj_on_of_nodup_map distinct (List.mem_of_find?_eq_some h) mem same
  exact h

/-- A column that is looked up by name has the kind that stands under the name among the kinds. -/
theorem TableLayout.map_kind_column? (distinct : (layout.columns.map (·.name)).Nodup)
    (name : String) : (layout.column? name).map (·.kind) = layout.kinds.get? name := by
  have names : ((layout.columns.map fun c => (c.name, c.kind)).map (·.1)).Nodup := by
    rw [List.map_map]
    exact distinct
  cases h : layout.column? name with
  | none =>
    symm
    apply Keyed.get?_ofList_of_not_mem
    rw [List.map_map]
    intro mem
    obtain ⟨l, there, rfl⟩ := List.mem_map.mp mem
    exact Option.some_ne_none l ((column?_of_nodup distinct there).symm.trans h)
  | some l =>
    obtain rfl : l.name = name := by simpa using List.find?_some h
    have entry : (l.name, l.kind) ∈ layout.columns.map fun c => (c.name, c.kind) :=
      List.mem_map.mpr ⟨l, List.mem_of_find?_eq_some h, rfl⟩
    exact ((Keyed.get?_ofList_iff names).mpr entry).symm

/-! ## The columns of a table -/

/-- The layout of each column shows it with the kind that it is classified as. -/
theorem getElem?_columns_build (distinct : (t.columns.map (·.name)).Nodup) :
    (TableLayout.build t classifier options).columns[index]? = (t.columns[index]?).map fun column =>
      column.layout (classifyColumn t classifier index column) classifier.tokens options := by
  rw [TableLayout.build, List.getElem?_zipWith, Keyed.values, entries_classify distinct,
    List.getElem?_map, Table.getElem?_namedKinds]
  cases t.columns[index]? <;> rfl

/-- Each description in a layout is that of the column at its index. -/
theorem exists_column_of_build (distinct : (t.columns.map (·.name)).Nodup)
    (h : (TableLayout.build t classifier options).columns[index]? = some l) :
    ∃ column, t.columns[index]? = some column ∧
      column.layout (classifyColumn t classifier index column) classifier.tokens options = l := by
  rw [getElem?_columns_build distinct] at h
  exact Option.map_eq_some_iff.mp h

/-- A layout has the names of the columns, in order. -/
theorem names_columns_build (distinct : (t.columns.map (·.name)).Nodup) :
    (TableLayout.build t classifier options).columns.map (·.name) = t.columns.map (·.name) := by
  apply List.ext_getElem?
  intro index
  rw [List.getElem?_map, List.getElem?_map, getElem?_columns_build distinct]
  cases t.columns[index]? <;> rfl

/-- The kinds of a layout are those that the table is classified with, in the same order. -/
theorem kinds_build (distinct : (t.columns.map (·.name)).Nodup) :
    (TableLayout.build t classifier options).kinds = classify t classifier := by
  have entries : (TableLayout.build t classifier options).columns.map (fun c => (c.name, c.kind)) =
      t.namedKinds classifier := by
    apply List.ext_getElem?
    intro index
    rw [List.getElem?_map, getElem?_columns_build distinct, Table.getElem?_namedKinds]
    cases t.columns[index]? <;> rfl
  rw [TableLayout.kinds, entries, classify, Table.namedKinds]

/-- The description at an index is the one that is found under its name. -/
theorem column?_build (distinct : (t.columns.map (·.name)).Nodup)
    (h : (TableLayout.build t classifier options).columns[index]? = some l) :
    (TableLayout.build t classifier options).column? l.name = some l := by
  apply TableLayout.column?_of_nodup
  · rwa [names_columns_build distinct]
  · exact List.mem_of_getElem? h

/-- **A layout describes each column of its table, with the kind of this column.** In a table whose columns
have different names there is one description for each of them, in order, and it is found under the name
of the column. It has the kind that the column is classified as, and all of it is what this kind, the name
and the flags of the column call for. The kinds of the layout are those of the classification, also in
their order. -/
theorem build_describes_columns (distinct : (t.columns.map (·.name)).Nodup)
    (classifier : ClassifierOptions) (options : LayoutOptions) :
    (TableLayout.build t classifier options).Describes t classifier options where
  names := names_columns_build distinct
  columns := by
    intro index column found
    have placed : (TableLayout.build t classifier options).columns[index]? =
        some (column.layout (classifyColumn t classifier index column) classifier.tokens options) := by
      rw [getElem?_columns_build distinct, found, Option.map_some]
    exact ⟨_, _, placed, column?_build distinct placed, get?_classify distinct found,
      column.describes_layout _ _ _⟩
  lookup := by
    intro name
    have names : ((TableLayout.build t classifier options).columns.map (·.name)).Nodup := by
      rwa [names_columns_build distinct]
    rw [TableLayout.map_kind_column? names, kinds_build distinct]
  kinds := kinds_build distinct

/-- A column of each kind, of which the second turns out to be a check box, the third is hidden, and the
fourth cannot be edited. -/
theorem build_describes_columns_five_kinds :
    let t : Table := ⟨"Orders", [.named "PRICE" .number, .named "PAID" .string,
        .named "HIGHLIGHT_COLOR" .string, (Column.named "SCAN" .binary).asFunction,
        .named "NOTE" .other],
      [.unchanged [.float .nan, .string "TRUE", .string "Red", .null, .boolean true],
        .deleted [.null, .decimal "FALSE", .null, .bytes [1], .null]]⟩
    (t.columns.map (·.name)).Nodup ∧ (TableLayout.build t {} {}).Describes t {} {} := by
  intro t
  have distinct : (t.columns.map (·.name)).Nodup := by decide
  exact ⟨distinct, build_describes_columns distinct {} {}⟩

/-- By the kinds of a layout each column is found at its own index with its own kind. -/
theorem findKind?_build (distinct : (t.columns.map (·.name)).Nodup)
    (h : (TableLayout.build t classifier options).columns[index]? = some l) :
    t.findKind? (TableLayout.build t classifier options).kinds l.name = some (index, l.kind) := by
  obtain ⟨column, found, rfl⟩ := exists_column_of_build distinct h
  show t.findKind? _ column.name = some (index, classifyColumn t classifier index column)
  rw [Table.findKind?_eq_some (columnIndex?_of_nodup distinct found) found, kinds_build distinct,
    get?_classify distinct found, Option.getD_some]

end DataGrid
