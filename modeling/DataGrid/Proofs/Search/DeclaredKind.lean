import DataGrid.Proofs.Classification.Evidence
import DataGrid.Proofs.Search.TextColumn

/-!
# Searching by declared types

A filter takes the kinds of columns from whoever classified them, and where none is given, from the types
that are declared. The two do not always agree: what is declared to hold texts may be classified as a
check-box column, depending on the rows that are there and on the literals. For a search it makes no
difference, since columns of both kinds are searched by their texts.

* **`Kind.SearchedAlike`**: whether columns of two kinds are searched in the same way.
* `Comparison.test_congr`, `Filter.resolve_congr`: where the kinds of columns are searched alike, a filter
  resolves to the same, or fails with the same error.
* `searchedAlike_classifyColumn`: a column is searched like its declared type however it is classified.
* **`resolve_classify`**: so a classification has no influence on a filter.
-/

namespace DataGrid

/-! ## Kinds that are searched alike -/

/-- Whether the cells of a column are searched by their texts. -/
def Kind.IsSearchedByText (kind : Kind) : Prop := kind ≠ .numeric ∧ kind ≠ .binary

/-- Whether columns of two kinds are searched in the same way. -/
def Kind.SearchedAlike (kind kind' : Kind) : Prop :=
  kind = kind' ∨ kind.IsSearchedByText ∧ kind'.IsSearchedByText

/-- The kind of a column: the one that is given for its name, or else the one that its type stands for. -/
def ColumnKinds.of (kinds : ColumnKinds) (column : Column) : Kind :=
  (kinds.get? column.name).getD (.ofDeclared column.type)

variable {t : Table} {kinds kinds' : ColumnKinds} {options : FilterOptions} {kind kind' : Kind}

/-- Columns of kinds that are searched alike are tested for the same. -/
theorem Comparison.test_congr (c : Comparison) (alike : kind.SearchedAlike kind') :
    c.test kind options = c.test kind' options := by
  rcases alike with rfl | ⟨text, text'⟩
  · rfl
  · rw [test_text text.1 text.2, test_text text'.1 text'.2]

/-- The index of a name is that of a column with this name. -/
theorem Table.exists_of_columnIndex? {name : String} {index : Nat}
    (place : t.columnIndex? name = some index) :
    ∃ column, t.columns[index]? = some column ∧ column.name = name := by
  obtain ⟨lt, named, -⟩ := List.findIdx?_eq_some_iff_getElem.mp place
  exact ⟨_, List.getElem?_eq_getElem lt, beq_iff_eq.mp named⟩

/-- What a comparison resolves to depends on the kinds of the columns only as far as these are searched
differently. -/
theorem Comparison.resolve_congr (c : Comparison)
    (alike : ∀ column ∈ t.columns, (kinds.of column).SearchedAlike (kinds'.of column)) :
    c.resolve t kinds options = c.resolve t kinds' options := by
  cases place : t.columnIndex? c.column with
  | none =>
    -- A column that is not there has no kind, so both sides fail alike.
    have missing (kinds : ColumnKinds) : t.findKind? kinds c.column = none := by
      rw [Table.findKind?, place]
      rfl
    rw [resolve, missing, resolve, missing]
  | some index =>
    obtain ⟨column, found, name⟩ := Table.exists_of_columnIndex? place
    have kindAt (kinds : ColumnKinds) :
        t.findKind? kinds c.column = some (index, kinds.of column) := by
      rw [Table.findKind?_eq_some place found, ColumnKinds.of, name]
    have same : c.test (kinds.of column) options = c.test (kinds'.of column) options :=
      c.test_congr (alike column (List.mem_of_getElem? found))
    simp only [resolve, kindAt, same]

/-- What a filter resolves to depends on the kinds of the columns only as far as these are searched
alike. -/
theorem Filter.resolve_congr (f : Filter)
    (alike : ∀ column ∈ t.columns, (kinds.of column).SearchedAlike (kinds'.of column)) :
    f.resolve t kinds options = f.resolve t kinds' options := by
  have same : (fun c : Comparison => c.resolve t kinds options) =
      fun c => c.resolve t kinds' options :=
    funext fun c => c.resolve_congr alike
  rw [resolve, same, resolve]

/-! ## Classified and declared kinds -/

/-- A classified column is searched like one of its declared kind: evidence only tells kinds apart that
are searched by text. -/
theorem searchedAlike_classifyColumn {classifier : ClassifierOptions} {index : Nat} {column : Column} :
    (classifyColumn t classifier index column).SearchedAlike (.ofDeclared column.type) := by
  by_cases box : classifyColumn t classifier index column = .booleanEnum
  · obtain ⟨string, -⟩ := classifyColumn_eq_booleanEnum_iff.mp box
    rw [box, string]
    exact .inr ⟨⟨Kind.noConfusion, Kind.noConfusion⟩, Kind.noConfusion, Kind.noConfusion⟩
  · exact .inl (classifyColumn_of_ne box)

/-- **A classification has no influence on a filter.** With the kinds that a table is classified with, a
filter fails to be resolved with the same error as with no kinds at all, or both resolve and then give
the same rows, or the same error, for every table that they are applied to. So it does not matter either
which literals and how much evidence a classification asks for. -/
theorem resolve_classify (distinct : (t.columns.map (·.name)).Nodup) (f : Filter)
    (options : FilterOptions) (classifier : ClassifierOptions) :
    let classified := f.resolve t (classify t classifier) options
    let declared := f.resolve t .empty options
    ((∃ e, classified = .error e ∧ declared = .error e) ∨
      ∃ g h, classified = .ok g ∧ declared = .ok h ∧ ∀ s : Table, g.apply s = h.apply s) ∧
    ∀ other, f.resolve t (classify t other) options = classified := by
  have same (classifier : ClassifierOptions) :
      f.resolve t (classify t classifier) options = f.resolve t .empty options := by
    apply f.resolve_congr
    intro column mem
    obtain ⟨index, found⟩ := List.mem_iff_getElem?.mp mem
    rw [ColumnKinds.of, get?_classify distinct found, Option.getD_some]
    exact searchedAlike_classifyColumn
  intro classified declared
  refine ⟨?_, fun other => (same other).trans (same classifier).symm⟩
  cases outcome : declared with
  | error e => exact .inl ⟨e, (same classifier).trans outcome, rfl⟩
  | ok g => exact .inr ⟨g, g, (same classifier).trans outcome, rfl, fun _ => rfl⟩

/-- A column that is classified as a check-box column with the usual literals and as one of texts with
others, searched together with a numeric column in which a cell is no number. -/
theorem resolve_classify_three_rows :
    let t : Table := ⟨"Staff", [.named "ACTIVE" .string, .named "AGE" .number],
      [.unchanged [.string "TRUE", .integer 30], .added [.null, .string "old"],
        .modified [.null, .null] [.string "FALSE", .string "old"]]⟩
    let other : ClassifierOptions := ⟨⟨"Y", "N", "?"⟩, .anyLiteral⟩
    let f : Filter := ⟨[⟨"ACTIVE", .notEqual, "n"⟩, ⟨"AGE", .greaterThan, "17"⟩], '%'⟩
    let classified := f.resolve t (classify t {}) {}
    let declared := f.resolve t .empty {}
    ((t.columns.map (·.name)).Nodup ∧ (classify t {}).get? "ACTIVE" = some .booleanEnum ∧
      (classify t other).get? "ACTIVE" = some .string) ∧
    ((∃ e, classified = .error e ∧ declared = .error e) ∨
      ∃ g h, classified = .ok g ∧ declared = .ok h ∧ ∀ s : Table, g.apply s = h.apply s) ∧
    f.resolve t (classify t other) {} = classified := by
  intro t other f classified declared
  have distinct : (t.columns.map (·.name)).Nodup := by decide
  obtain ⟨outcome, others⟩ := resolve_classify distinct f {} {}
  exact ⟨⟨distinct, by decide, by decide⟩, outcome, others other⟩

end DataGrid
