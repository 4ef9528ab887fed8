import DataGrid.Proofs.Outcome
import DataGrid.Search.Resolved

/-!
# What a filter decides about a row

Before a filter answers for a row it has to be resolved, and testing the row must not fail.
**`Filter.Decides`** says all of this at once: a filter decides a proposition about a row if it can be
resolved and tested on the row, and passes exactly if the proposition holds.

* **`Filter.answer`**: what resolving and testing come to together, an error of either included.
* `Comparison.resolve_eq_ok`, `Comparison.resolve_eq_error`: resolving a comparison in a column that is
  there is a matter of its operand alone, and a comparison can be resolved in no other way
  (`Comparison.resolve_eq_ok_iff`).
* `Filter.answer_singleton`: so a filter of one comparison answers as its comparison does.
* **`Filter.decides_of_accepts`**: a filter of one comparison decides whether a row satisfies this
  comparison. By `ResolvedFilter.accepts_null` and `accepts_eq_satisfies`, null cells never do, and
  all others go by what the comparison says of them: `accepts_of_number`, `accepts_of_not_number` and
  `accepts_of_text` where it compares them with an operand.
-/

namespace DataGrid

/-- Whether a filter can be resolved and tested on a row, and passes exactly if a proposition holds.
-/
def Filter.Decides (f : Filter) (t : Table) (kinds : ColumnKinds) (options : FilterOptions)
    (row : Nat) (p : Prop) : Prop :=
  ∃ resolved passes, f.resolve t kinds options = .ok resolved ∧
    resolved.isMatch t row = .ok passes ∧ (passes = true ↔ p)

/-- What a filter answers about the row at an index of a table, against which it is resolved first. -/
def Filter.answer (f : Filter) (t : Table) (kinds : ColumnKinds) (options : FilterOptions)
    (row : Nat) : Except FilterError Bool := do
  (← f.resolve t kinds options).isMatch t row

/-- A filter that gives an answer decides whether this is yes. -/
theorem Filter.Decides.of_answer {f : Filter} {t : Table} {kinds : ColumnKinds}
    {options : FilterOptions} {row : Nat} {passes : Bool}
    (h : f.answer t kinds options row = .ok passes) :
    f.Decides t kinds options row (passes = true) := by
  obtain ⟨resolved, hf, hrow⟩ := bind_eq_ok.mp h
  exact ⟨resolved, passes, hf, hrow, Iff.rfl⟩

/-- Equivalent propositions are decided alike. -/
theorem Filter.Decides.congr {f : Filter} {t : Table} {kinds : ColumnKinds}
    {options : FilterOptions} {row : Nat} {p q : Prop} (h : f.Decides t kinds options row p)
    (iff : p ↔ q) : f.Decides t kinds options row q := by
  obtain ⟨resolved, passes, hf, hrow, decides⟩ := h
  exact ⟨resolved, passes, hf, hrow, decides.trans iff⟩

/-- What a filter decides is what it answers. -/
theorem Filter.Decides.iff_of_isMatch {f : Filter} {t : Table} {kinds : ColumnKinds}
    {options : FilterOptions} {row : Nat} {p : Prop} (h : f.Decides t kinds options row p)
    {resolved : ResolvedFilter} (hf : f.resolve t kinds options = .ok resolved) {passes : Bool}
    (hrow : resolved.isMatch t row = .ok passes) : passes = true ↔ p := by
  obtain ⟨resolved', passes', hf', hrow', decides⟩ := h
  rw [hf] at hf'
  cases hf'
  rw [hrow] at hrow'
  cases hrow'
  exact decides

/-! ## One comparison -/

variable {t : Table} {kinds : ColumnKinds} {options : FilterOptions} {row index : Nat} {kind : Kind}
  {c : Comparison} {test : Test} {r : Row} {v : Value} {w : Char}

/-- A column that is there is found at its place, with the kind that is given for it or else the one of its
type. -/
theorem Table.findKind?_eq_some {name : String} {column : Column} (place : t.columnIndex? name = some index)
    (found : t.columns[index]? = some column) :
    t.findKind? kinds name = some (index, (kinds.get? name).getD (.ofDeclared column.type)) := by
  rw [findKind?, place]
  show (t.columns[index]?).bind _ = _
  rw [found]
  rfl

/-- A comparison whose column is found and whose operand can be read is resolved. -/
theorem Comparison.resolve_eq_ok (column : t.findKind? kinds c.column = some (index, kind))
    (tested : c.test kind options = .ok test) :
    c.resolve t kinds options = .ok ⟨c.column, index, c.operator, test⟩ := by
  simp only [resolve, column, tested]
  rfl

/-- A comparison whose operand cannot be read is not resolved, with the error of reading it. -/
theorem Comparison.resolve_eq_error (column : t.findKind? kinds c.column = some (index, kind))
    {e : FilterError} (tested : c.test kind options = .error e) :
    c.resolve t kinds options = .error e := by
  simp only [resolve, column, tested]
  rfl

/-- A comparison is resolved by finding its column and reading its operand. -/
theorem Comparison.resolve_eq_ok_iff {d : ResolvedComparison} :
    c.resolve t kinds options = .ok d ↔ ∃ index kind test,
      t.findKind? kinds c.column = some (index, kind) ∧ c.test kind options = .ok test ∧
        ⟨c.column, index, c.operator, test⟩ = d := by
  constructor
  · intro resolved
    unfold resolve at resolved
    split at resolved
    · cases resolved
    · rename_i index kind column
      obtain ⟨test, tested, rest⟩ := bind_eq_ok.mp resolved
      exact ⟨index, kind, test, column, tested, pure_eq_ok.mp rest⟩
  · rintro ⟨index, kind, test, column, tested, rfl⟩
    exact resolve_eq_ok column tested

/-- A filter is resolved by the columns of a table alone. -/
theorem Filter.resolve_columns {t u : Table} (columns : t.columns = u.columns) (f : Filter)
    (kinds : ColumnKinds) (options : FilterOptions) :
    f.resolve t kinds options = f.resolve u kinds options := by
  obtain ⟨_, _, _⟩ := t
  obtain ⟨_, _, _⟩ := u
  subst columns
  rfl

namespace ResolvedFilter

variable {f : ResolvedFilter} {d : ResolvedComparison} {x y : Binary64} {s : List Char}

/-- A null cell, and one that the row does not have, satisfies no comparison. -/
theorem accepts_null (cell : (r.cell? d.index).getD .null = .null) :
    f.accepts row r d = .ok false := by
  rw [accepts, cell]

/-- A cell that is not null is tested for what the comparison asks. -/
theorem accepts_eq_satisfies (cell : (r.cell? d.index).getD .null = v) (shown : v.isNull = false) :
    f.accepts row r d = f.satisfies d row v := by
  rw [accepts, cell]
  cases v with
  | null => cases shown
  | boolean | integer | float | decimal | string | bytes => rfl

/-- Where testing cannot fail, a row satisfies a comparison if its cell is not null and does. -/
theorem accepts_eq_ok {passes : Value → Bool} (satisfies : ∀ v, f.satisfies d row v = .ok (passes v)) :
    let cell := (r.cell? d.index).getD .null
    f.accepts row r d = .ok (!cell.isNull && passes cell) := by
  intro cell
  cases null : cell.isNull with
  | true => exact accepts_null (Value.isNull_iff.mp null)
  | false => exact (accepts_eq_satisfies rfl null).trans (satisfies cell)

/-- A cell with a number in it is compared with the operand as a number; not-a-number passes no
comparison. -/
theorem accepts_of_number (tested : d.test = .number y) (cell : (r.cell? d.index).getD .null = v)
    (shown : v.isNull = false) (number : v.asNumber? = some x) :
    f.accepts row r d = .ok ((x.compare? y).any d.operator.accepts) := by
  rw [accepts_eq_satisfies cell shown]
  simp only [satisfies, tested, number]

/-- A cell without a number in it cannot be compared with a number, and the error names its row and
text. -/
theorem accepts_of_not_number (tested : d.test = .number y) (cell : (r.cell? d.index).getD .null = v)
    (shown : v.isNull = false) (number : v.asNumber? = none) :
    f.accepts row r d = .error (.table (.conversion d.column row v.text .number)) := by
  rw [accepts_eq_satisfies cell shown]
  simp only [satisfies, tested, number]

/-- A cell that is compared with a text is compared by its own text, folded like the operand. -/
theorem accepts_of_text (tested : d.test = .text s) (cell : (r.cell? d.index).getD .null = v)
    (shown : v.isNull = false) :
    f.accepts row r d =
      .ok (d.operator.accepts (compare (folded f.caseSensitive v.text.toList) s)) := by
  rw [accepts_eq_satisfies cell shown]
  simp only [satisfies, tested]

end ResolvedFilter

/-- A filter of one comparison answers whether the row satisfies this comparison. -/
theorem Filter.answer_singleton {d : ResolvedComparison} (resolved : c.resolve t kinds options = .ok d)
    (found : t.rows[row]? = some r) :
    (Filter.mk [c] w).answer t kinds options row =
      ResolvedFilter.accepts ⟨[d], w, options.caseSensitive⟩ row r d := by
  let f : ResolvedFilter := ⟨[d], w, options.caseSensitive⟩
  have alone : (Filter.mk [c] w).resolve t kinds options = .ok f := by
    rw [Filter.resolve, List.mapM_cons, resolved]
    rfl
  have answer : (Filter.mk [c] w).answer t kinds options row = f.acceptsAll row r [d] := by
    rw [Filter.answer, alone]
    show f.isMatch t row = _
    rw [ResolvedFilter.isMatch, found]
    rfl
  rw [answer, ResolvedFilter.acceptsAll]
  cases f.accepts row r d with
  | error => rfl
  | ok passes => cases passes <;> rfl

/-- A filter of one comparison decides whether the row satisfies the comparison. -/
theorem Filter.decides_of_accepts (column : t.findKind? kinds c.column = some (index, kind))
    (tested : c.test kind options = .ok test) (found : t.rows[row]? = some r) {passes : Bool}
    (accepts : ResolvedFilter.accepts
      ⟨[⟨c.column, index, c.operator, test⟩], w, options.caseSensitive⟩ row r
      ⟨c.column, index, c.operator, test⟩ = .ok passes) :
    (Filter.mk [c] w).Decides t kinds options row (passes = true) :=
  .of_answer ((Filter.answer_singleton (Comparison.resolve_eq_ok column tested) found).trans accepts)

end DataGrid
