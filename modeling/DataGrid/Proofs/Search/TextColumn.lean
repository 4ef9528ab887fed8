import DataGrid.Proofs.Search.Order
import DataGrid.Proofs.Search.Pattern

/-!
# Searching a column by text

The cells of a column that is neither numeric nor binary are searched by their text, and then nothing
can fail: every operand is a text, and every cell has one.

* **`SearchMarks.passes`**: whether a cell passes a search text, by what each term asks of the text of
  the cell (**`Operator.admits`**).
* `ResolvedFilter.satisfies_text`, `matchesRow_text`: that is how a filter tests the cells of such a
  column, and `Filter.answer_text` what a filter of one comparison answers.
* **`Table.view_text`**: so a search text in such a column always has a view, of the rows whose cell
  passes it.
-/

namespace DataGrid

open Text

/-! ## Terms and texts -/

/-- Whether a text stands to an operand as an operator asks. -/
def Operator.admits (o : Operator) (wildcard : Char) (caseSensitive : Bool) (operand text : String) :
    Bool :=
  if o = .like then
    Like.covers (fun c d => SameIn caseSensitive c d) wildcard operand.toList text.toList
  else o.accepts (compare (folded caseSensitive text.toList) (folded caseSensitive operand.toList))

/-- Whether a cell passes a search text in a column that is searched by text: for each term it is not
null and its text stands to the operand as the term asks. -/
def SearchMarks.passes (m : SearchMarks) (caseSensitive : Bool) (search : String) (v : Value) : Bool :=
  (m.terms search).all fun term =>
    let (operator, operand) := Term.parse m.wildcard term
    !v.isNull && operator.admits m.wildcard caseSensitive operand v.text

/-- A null cell passes only a text that asks for nothing. -/
theorem SearchMarks.passes_null {m : SearchMarks} {caseSensitive : Bool} {search : String} :
    m.passes caseSensitive search .null = true ↔ m.terms search = [] := by
  cases h : m.terms search <;> simp [passes, h, Value.isNull]

/-- The forms of two cells do not matter, only their texts. -/
theorem SearchMarks.passes_congr {m : SearchMarks} {caseSensitive : Bool} {search : String}
    {v w : Value} (null : v.isNull = w.isNull) (text : v.text = w.text) :
    m.passes caseSensitive search v = m.passes caseSensitive search w := by
  simp only [passes, null, text]

/-! ## Filters -/

/-- What a comparison tests the text of a cell for. -/
def Comparison.textTest (c : Comparison) (caseSensitive : Bool) : Test :=
  if c.operator = .like then .pattern c.operand.toList
  else .text (folded caseSensitive c.operand.toList)

/-- A comparison resolved in the column at an index that is searched by text. -/
def Comparison.inColumn (c : Comparison) (index : Nat) (caseSensitive : Bool) : ResolvedComparison :=
  ⟨c.column, index, c.operator, c.textTest caseSensitive⟩

section

variable {t : Table} {kinds : ColumnKinds} {options : FilterOptions} {m : SearchMarks}
  {e : SearchEntry} {index : Nat} {kind : Kind}

/-- In a column that is searched by text every operand can be read. -/
theorem Comparison.test_text {c : Comparison} (notNumeric : kind ≠ .numeric) (notBinary : kind ≠ .binary) :
    c.test kind options = .ok (c.textTest options.caseSensitive) := by
  obtain ⟨column, operator, operand⟩ := c
  cases kind with
  | numeric => exact absurd rfl notNumeric
  | binary => exact absurd rfl notBinary
  | string | booleanEnum | other => cases operator <;> rfl

/-- The comparisons of an entry in a column that is searched by text can all be resolved. -/
theorem Filter.resolve_text (column : t.findKind? kinds e.column = some (index, kind))
    (notNumeric : kind ≠ .numeric) (notBinary : kind ≠ .binary) :
    (ofEntries m [e]).resolve t kinds options =
      .ok ⟨(e.comparisons m).map (·.inColumn index options.caseSensitive), m.wildcard,
        options.caseSensitive⟩ := by
  have resolved : ∀ c ∈ e.comparisons m,
      c.resolve t kinds options = .ok (c.inColumn index options.caseSensitive) := by
    intro c hc
    obtain ⟨term, -, rfl⟩ := List.mem_map.mp hc
    exact Comparison.resolve_eq_ok column (Comparison.test_text notNumeric notBinary)
  rw [ofEntries_eq, List.flatMap_singleton, resolve, mapM_eq_ok_map resolved]
  rfl

namespace ResolvedFilter

variable {f : ResolvedFilter} {row : Nat} {r : Row}

/-- The text of a cell satisfies a comparison exactly if it stands to the operand as the operator asks.
-/
theorem satisfies_text (c : Comparison) (v : Value) :
    f.satisfies (c.inColumn index f.caseSensitive) row v =
      .ok (c.operator.admits f.wildcard f.caseSensitive c.operand v.text) := by
  rw [Operator.admits]
  by_cases like : c.operator = .like
  · rw [satisfies_pattern (by rw [Comparison.inColumn, Comparison.textTest, if_pos like]), if_pos like]
    congr 2
    funext p d
    rw [Bool.eq_iff_iff, sameChar_iff, decide_eq_true_iff]
  · rw [satisfies, Comparison.inColumn, Comparison.textTest, if_neg like, if_neg like]

/-- A cell passes a comparison exactly if it is not null and its text satisfies the comparison. -/
theorem accepts_text (c : Comparison) :
    let cell := (r.cell? index).getD .null
    f.accepts row r (c.inColumn index f.caseSensitive) =
      .ok (!cell.isNull && c.operator.admits f.wildcard f.caseSensitive c.operand cell.text) :=
  accepts_eq_ok (satisfies_text c)

/-- Tests that cannot fail are satisfied together if each of them is. -/
theorem acceptsAll_map {cs : List Comparison} {resolved : Comparison → ResolvedComparison}
    {passes : Comparison → Bool} (h : ∀ c, f.accepts row r (resolved c) = .ok (passes c)) :
    f.acceptsAll row r (cs.map resolved) = .ok (cs.all passes) := by
  induction cs with
  | nil => rfl
  | cons c cs ih =>
    rw [List.map_cons, acceptsAll, h c, List.all_cons, ih]
    cases passes c <;> rfl

/-- A resolved search text tests a row by its cell. -/
theorem matchesRow_text (comparisons : f.comparisons =
      (e.comparisons m).map (·.inColumn index f.caseSensitive)) (wildcard : f.wildcard = m.wildcard) :
    f.matchesRow row r =
      .ok (m.passes f.caseSensitive e.text ((r.cell? index).getD .null)) := by
  rw [matchesRow, comparisons, acceptsAll_map accepts_text, wildcard, SearchEntry.comparisons,
    List.all_map]
  rfl

end ResolvedFilter

/-- A filter of one comparison answers whether the cell of the row is not null and its text stands to the
operand as the operator asks. -/
theorem Filter.answer_text {c : Comparison} (column : t.findKind? kinds c.column = some (index, kind))
    (notNumeric : kind ≠ .numeric) (notBinary : kind ≠ .binary) {row : Nat} {r : Row}
    (found : t.rows[row]? = some r) (w : Char) :
    let cell := (r.cell? index).getD .null
    (Filter.mk [c] w).answer t kinds options row =
      .ok (!cell.isNull && c.operator.admits w options.caseSensitive c.operand cell.text) := by
  have resolved : c.resolve t kinds options = .ok (c.inColumn index options.caseSensitive) :=
    Comparison.resolve_eq_ok column (Comparison.test_text notNumeric notBinary)
  exact (answer_singleton resolved found).trans (ResolvedFilter.accepts_text c)

/-- **A search text in a column that is searched by text has a view**: the rows that are not deleted
and whose cell passes the text. -/
theorem Table.view_text (column : t.findKind? kinds e.column = some (index, kind))
    (notNumeric : kind ≠ .numeric) (notBinary : kind ≠ .binary) :
    t.view kinds options m [e] = .ok ((t.liveRows.filter fun p =>
      m.passes options.caseSensitive e.text ((p.1.cell? index).getD .null)).map (·.2)) := by
  rw [view, Filter.resolve_text column notNumeric notBinary]
  apply ResolvedFilter.apply_eq_ok_iff.mpr
  constructor
  · intro row r _ _
    exact ⟨_, ResolvedFilter.matchesRow_text rfl rfl⟩
  · rw [liveRows, List.filter_filter]
    apply congrArg (List.map _)
    apply List.filter_congr
    intro p _
    rw [Bool.eq_iff_iff, Bool.and_eq_true, decide_eq_true_iff, decide_eq_true_iff]
    by_cases deleted : p.1.state = .deleted
    · simp [ResolvedFilter.Shows, deleted]
    · rw [ResolvedFilter.shows_iff_of_matchesRow deleted (ResolvedFilter.matchesRow_text rfl rfl)]
      exact (and_iff_left deleted).symm

end

end DataGrid
