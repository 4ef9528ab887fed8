import DataGrid.Proofs.Search.Numeric

/-!
# How the comparison operators hang together

All operators but the one for patterns ask how a cell and an operand compare, and differ only in the
orders that they accept. So they answer alike wherever there is no order to speak of, and otherwise
their answers follow from three of them.

* `Comparison.test_eq_ok_iff`: a comparison with such an operator compares a cell with an operand that fits
  the column (**`Test.Compares`**), and with the same for each of them.
* **`Value.IsUnordered`**, **`Value.IsUnreadable`**: the cells without an order. A null cell, and one that
  is not-a-number in a numeric column, satisfies no operator, not even the one for different values. A
  cell that is no number in a numeric column cannot be tested.
* `ResolvedFilter.exists_order`: every other cell stands in one order to the operand, and each operator
  answers whether it accepts this order.
* **`comparisons_coherent`**: hence what the six comparisons with one operand answer about a row.
-/

namespace DataGrid

/-! ## Operands -/

/-- Whether a test compares cells with an operand that fits columns of some kind: a finite number in a
numeric column, and a text in any other. -/
def Test.Compares (kind : Kind) : Test → Prop
  | .pattern _ => False
  | .number y => kind = .numeric ∧ y.isFinite = true
  | .text _ => kind ≠ .numeric

section operands

variable {name operand : String} {kind : Kind} {options : FilterOptions} {test : Test}

/-- An operand of a numeric column is a finite number. -/
theorem isFinite_of_readOperand {y : Binary64} (read : readOperand operand = .ok y) :
    y.isFinite = true := by
  unfold readOperand at read
  split at read
  · cases read
  · rename_i x _
    cases finite : x.isFinite with
    | false =>
      rw [finite] at read
      cases read
    | true =>
      rw [finite] at read
      cases read
      exact finite

/-- What a cell is tested for does not depend on the operator. -/
theorem Comparison.test_eq_ok_iff {o : Operator} (ne : o ≠ .like) :
    Comparison.test ⟨name, o, operand⟩ kind options = .ok test ↔
      (kind = .numeric ∧ ∃ y, readOperand operand = .ok y ∧ test = .number y) ∨
        (kind ≠ .numeric ∧ kind ≠ .binary ∧
          test = .text (folded options.caseSensitive operand.toList)) := by
  cases kind with
  | binary => simp [Comparison.test]
  | numeric =>
    cases read : readOperand operand with
    | error fault => simp [test_numeric_error ne read]
    | ok y => simp [test_numeric ne read, eq_comm]
  | string | booleanEnum | other =>
    cases o with
    | like => exact absurd rfl ne
    | _ => simp [Comparison.test, eq_comm]

/-- What a cell is tested for to be equal, it is tested for with any other operator. -/
theorem Comparison.test_of_equal (h : Comparison.test ⟨name, .equal, operand⟩ kind options = .ok test)
    {o : Operator} (ne : o ≠ .like) : Comparison.test ⟨name, o, operand⟩ kind options = .ok test :=
  (test_eq_ok_iff ne).mpr ((test_eq_ok_iff (by decide)).mp h)

/-- A comparison that is no pattern compares cells with an operand that fits the column. -/
theorem Comparison.compares_of_test {o : Operator} (ne : o ≠ .like)
    (tested : Comparison.test ⟨name, o, operand⟩ kind options = .ok test) : test.Compares kind := by
  obtain ⟨numeric, y, read, rfl⟩ | ⟨notNumeric, -, rfl⟩ := (test_eq_ok_iff ne).mp tested
  · exact ⟨numeric, isFinite_of_readOperand read⟩
  · exact notNumeric

end operands

/-! ## Cells -/

/-- Whether a cell stands in no order to any operand, in a column of some kind. -/
def Value.IsUnordered (v : Value) (kind : Kind) : Prop :=
  v.isNull = true ∨ kind = .numeric ∧ v.asNumber? = some .nan

/-- Whether a cell cannot be compared with any operand, in a column of some kind. -/
def Value.IsUnreadable (v : Value) (kind : Kind) : Prop :=
  kind = .numeric ∧ v.isNull = false ∧ v.asNumber? = none

/-- Every number but not-a-number has a place among the numbers. -/
theorem Binary64.exists_place {x : Binary64} (ne : x ≠ .nan) : ∃ p, x.place? = some p := by
  cases x with
  | nan => exact absurd rfl ne
  | ranked negative rank => exact ⟨_, place?_ranked negative rank⟩

/-- Every number but not-a-number stands in an order to a finite one. -/
theorem Binary64.exists_compare {x y : Binary64} (ne : x ≠ .nan) (finite : y.isFinite = true) :
    ∃ order, x.compare? y = some order := by
  have ne' : y ≠ .nan := by
    rintro rfl
    cases finite
  obtain ⟨p, hp⟩ := exists_place ne
  obtain ⟨q, hq⟩ := exists_place ne'
  exact ⟨compare p q, by simp [compare?, hp, hq]⟩

/-- In a numeric column the operand is a finite number. -/
theorem Test.Compares.exists_number {test : Test} {kind : Kind} (compares : test.Compares kind)
    (numeric : kind = .numeric) : ∃ y, test = .number y ∧ y.isFinite = true := by
  cases test with
  | pattern p => exact compares.elim
  | number y => exact ⟨y, rfl, compares.2⟩
  | text s => exact absurd numeric compares

namespace ResolvedFilter

variable {f : ResolvedFilter} {c : ResolvedComparison} {row : Nat} {r : Row} {kind : Kind} {v : Value}

/-- A cell without an order passes no comparison. -/
theorem accepts_of_isUnordered (compares : c.test.Compares kind)
    (cell : (r.cell? c.index).getD .null = v) (unordered : v.IsUnordered kind) :
    f.accepts row r c = .ok false := by
  cases null : v.isNull with
  | true => exact accepts_null (cell.trans (Value.isNull_iff.mp null))
  | false =>
    obtain ⟨numeric, nan⟩ := unordered.resolve_left (by simp [null])
    obtain ⟨y, tested, -⟩ := compares.exists_number numeric
    exact accepts_of_number tested cell null nan

/-- A cell that cannot be compared is an error that names its row and text, whatever the operator is. -/
theorem accepts_of_isUnreadable (compares : c.test.Compares kind)
    (cell : (r.cell? c.index).getD .null = v) (unreadable : v.IsUnreadable kind) :
    f.accepts row r c = .error (.table (.conversion c.column row v.text .number)) := by
  obtain ⟨numeric, shown, number⟩ := unreadable
  obtain ⟨y, tested, -⟩ := compares.exists_number numeric
  exact accepts_of_not_number tested cell shown number

/-- Any other cell stands in one order to the operand, whatever the operator is. -/
theorem exists_order {test : Test} (compares : test.Compares kind) {name : String} {index : Nat}
    (cell : (r.cell? index).getD .null = v) (ordered : ¬ v.IsUnordered kind)
    (readable : ¬ v.IsUnreadable kind) (w : Char) (caseSensitive : Bool) :
    ∃ order, ∀ comparisons o, ResolvedFilter.accepts ⟨comparisons, w, caseSensitive⟩ row r
      ⟨name, index, o, test⟩ = .ok (o.accepts order) := by
  have shown : v.isNull = false := by
    rw [Bool.eq_false_iff]
    exact fun null => ordered (.inl null)
  cases test with
  | pattern p => exact compares.elim
  | number y =>
    obtain ⟨numeric, finite⟩ := compares
    cases number : v.asNumber? with
    | none => exact absurd ⟨numeric, shown, number⟩ readable
    | some x =>
      have ne : x ≠ .nan := by
        rintro rfl
        exact ordered (.inr ⟨numeric, number⟩)
      obtain ⟨order, compared⟩ := Binary64.exists_compare ne finite
      refine ⟨order, fun _ o => ?_⟩
      rw [accepts_of_number rfl cell shown number, compared, Option.any_some]
  | text s =>
    exact ⟨compare (folded caseSensitive v.text.toList) s, fun _ _ => accepts_of_text rfl cell shown⟩

/-- Comparing a cell fails only where it cannot be compared with any operand. -/
theorem accepts_eq_error_iff (compares : c.test.Compares kind)
    (cell : (r.cell? c.index).getD .null = v) {e : FilterError} :
    f.accepts row r c = .error e ↔
      v.IsUnreadable kind ∧ e = .table (.conversion c.column row v.text .number) := by
  by_cases unreadable : v.IsUnreadable kind
  · rw [accepts_of_isUnreadable compares cell unreadable, Except.error.injEq, eq_comm]
    exact (and_iff_right unreadable).symm
  · have answers : ∃ b, f.accepts row r c = .ok b := by
      by_cases unordered : v.IsUnordered kind
      · exact ⟨_, accepts_of_isUnordered compares cell unordered⟩
      · obtain ⟨order, judged⟩ :=
          exists_order compares cell unordered unreadable f.wildcard f.caseSensitive
        exact ⟨_, judged f.comparisons c.operator⟩
    obtain ⟨b, accepts⟩ := answers
    simp [accepts, unreadable]

end ResolvedFilter

/-! ## Six comparisons -/

/-- What an order is tells how the operators judge it. -/
theorem Operator.accepts_coherent (order : Ordering) :
    [lessThan.accepts order, equal.accepts order, greaterThan.accepts order].count true = 1 ∧
      lessOrEqual.accepts order = (lessThan.accepts order || equal.accepts order) ∧
      greaterOrEqual.accepts order = (greaterThan.accepts order || equal.accepts order) ∧
      notEqual.accepts order = !equal.accepts order := by
  cases order <;> decide

/-- A comparison can be resolved exactly if its column is there and its operand can be read. -/
theorem Filter.exists_resolve_singleton_iff {t : Table} {kinds : ColumnKinds} {options : FilterOptions}
    {c : Comparison} {w : Char} :
    (∃ f, (Filter.mk [c] w).resolve t kinds options = .ok f) ↔
      ∃ index kind test, t.findKind? kinds c.column = some (index, kind) ∧
        c.test kind options = .ok test := by
  constructor
  · rintro ⟨f, resolved⟩
    obtain ⟨cs, mapped, -⟩ := bind_eq_ok.mp resolved
    obtain ⟨d, hd⟩ := exists_mapM_iff.mp ⟨cs, mapped⟩ c List.mem_cons_self
    obtain ⟨index, kind, test, column, tested, -⟩ := Comparison.resolve_eq_ok_iff.mp hd
    exact ⟨index, kind, test, column, tested⟩
  · rintro ⟨index, kind, test, column, tested⟩
    refine ⟨⟨[⟨c.column, index, c.operator, test⟩], w, options.caseSensitive⟩, ?_⟩
    rw [Filter.resolve, List.mapM_cons, Comparison.resolve_eq_ok column tested]
    rfl

/-- **The six comparisons with one operand are coherent.** If the operand can be asked for with
equality, then it can be with each of the others. A cell that is null, or not-a-number in a numeric
column, satisfies none of the six, and a cell that is no number in a numeric column is one error for
all of them. Any other cell is less than the operand, equal to it or greater, and just one of these;
the other three operators answer accordingly. -/
theorem comparisons_coherent {t : Table} {kinds : ColumnKinds} {options : FilterOptions}
    {name operand : String} {w : Char}
    (resolves : ∃ f, (Filter.mk [⟨name, .equal, operand⟩] w).resolve t kinds options = .ok f) :
    let filter (o : Operator) : Filter := ⟨[⟨name, o, operand⟩], w⟩
    (∀ o, o ≠ .like → ∃ f, (filter o).resolve t kinds options = .ok f) ∧
    ∃ index kind, t.findKind? kinds name = some (index, kind) ∧
      ∀ row r, t.rows[row]? = some r →
        let v := (r.cell? index).getD .null
        let answer (o : Operator) := (filter o).answer t kinds options row
        (v.IsUnordered kind → ∀ o, o ≠ .like → answer o = .ok false) ∧
        (v.IsUnreadable kind → ∀ o, o ≠ .like →
          answer o = .error (.table (.conversion name row v.text .number))) ∧
        (¬ v.IsUnordered kind → ¬ v.IsUnreadable kind →
          ∃ less equal greater : Bool, [less, equal, greater].count true = 1 ∧
            answer .lessThan = .ok less ∧ answer .equal = .ok equal ∧
            answer .greaterThan = .ok greater ∧
            answer .lessOrEqual = .ok (less || equal) ∧
            answer .greaterOrEqual = .ok (greater || equal) ∧
            answer .notEqual = .ok (!equal)) := by
  intro filter
  obtain ⟨index, kind, test, column, tested⟩ := Filter.exists_resolve_singleton_iff.mp resolves
  have same (o : Operator) (ne : o ≠ .like) := Comparison.test_of_equal tested ne
  refine ⟨fun o ne => Filter.exists_resolve_singleton_iff.mpr ⟨index, kind, test, column, same o ne⟩,
    index, kind, column, fun row r found => ?_⟩
  intro v answer
  have compares : test.Compares kind := Comparison.compares_of_test (by decide) tested
  have answers (o : Operator) (ne : o ≠ .like) : answer o =
      ResolvedFilter.accepts ⟨[⟨name, index, o, test⟩], w, options.caseSensitive⟩ row r
        ⟨name, index, o, test⟩ :=
    Filter.answer_singleton (Comparison.resolve_eq_ok column (same o ne)) found
  refine ⟨fun unordered o ne => ?_, fun unreadable o ne => ?_, fun ordered readable => ?_⟩
  · exact (answers o ne).trans (ResolvedFilter.accepts_of_isUnordered compares rfl unordered)
  · exact (answers o ne).trans (ResolvedFilter.accepts_of_isUnreadable compares rfl unreadable)
  · obtain ⟨order, judged⟩ :=
      ResolvedFilter.exists_order compares rfl ordered readable w options.caseSensitive
    have judges (o : Operator) (ne : o ≠ .like) : answer o = .ok (o.accepts order) :=
      (answers o ne).trans (judged _ o)
    obtain ⟨one, atMost, atLeast, differs⟩ := Operator.accepts_coherent order
    refine ⟨Operator.lessThan.accepts order, Operator.equal.accepts order,
      Operator.greaterThan.accepts order, one, judges _ (by decide), judges _ (by decide),
      judges _ (by decide), ?_, ?_, ?_⟩
    · rw [judges _ (by decide), atMost]
    · rw [judges _ (by decide), atLeast]
    · rw [judges _ (by decide), differs]

/-- Four cells of a numeric column: null, not-a-number, no number at all, and the operand itself. -/
theorem comparisons_coherent_four_rows :
    let t : Table := ⟨"Orders", [.named "SUM" .number],
      [.unchanged [.null], .unchanged [.float .nan], .unchanged [.string "n/a"],
        .unchanged [.string " 5.0 "]]⟩
    let filter (o : Operator) : Filter := ⟨[⟨"SUM", o, "5"⟩], '%'⟩
    let answer (row : Nat) (o : Operator) := (filter o).answer t .empty {} row
    (∃ f, (filter .equal).resolve t .empty {} = .ok f) ∧
    (∀ o, o ≠ .like → ∃ f, (filter o).resolve t .empty {} = .ok f) ∧
    (∀ o, o ≠ .like → answer 0 o = .ok false) ∧
    (∀ o, o ≠ .like → answer 1 o = .ok false) ∧
    (∀ o, o ≠ .like → answer 2 o = .error (.table (.conversion "SUM" 2 "n/a" .number))) ∧
    ∃ less equal greater : Bool, [less, equal, greater].count true = 1 ∧
      answer 3 .lessThan = .ok less ∧ answer 3 .equal = .ok equal ∧
      answer 3 .greaterThan = .ok greater ∧ answer 3 .lessOrEqual = .ok (less || equal) ∧
      answer 3 .greaterOrEqual = .ok (greater || equal) ∧ answer 3 .notEqual = .ok (!equal) := by
  intro t filter answer
  have resolves : ∃ f, (filter .equal).resolve t .empty {} = .ok f :=
    ⟨⟨[⟨"SUM", 0, .equal, .number (.ofInt 5)⟩], '%', false⟩, by decide +kernel⟩
  obtain ⟨others, index, kind, column, rows⟩ := comparisons_coherent resolves
  have place : t.findKind? .empty "SUM" = some (0, .numeric) := by decide +kernel
  obtain ⟨rfl, rfl⟩ := Prod.mk.inj (Option.some.inj (column.symm.trans place))
  have unordered : ¬ (Value.string " 5.0 ").IsUnordered .numeric := by
    rintro (null | ⟨-, nan⟩)
    · cases null
    · exact absurd nan (by decide +kernel)
  have readable : ¬ (Value.string " 5.0 ").IsUnreadable .numeric :=
    fun unreadable => absurd unreadable.2.2 (by decide +kernel)
  exact ⟨resolves, others, (rows 0 _ rfl).1 (.inl rfl), (rows 1 _ rfl).1 (.inr ⟨rfl, rfl⟩),
    (rows 2 _ rfl).2.1 ⟨rfl, rfl, by decide +kernel⟩, (rows 3 _ rfl).2.2 unordered readable⟩

end DataGrid
