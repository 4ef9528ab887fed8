import DataGrid.Proofs.Search.Order
import DataGrid.Proofs.Table.Steps
import DataGrid.Table.Query

/-!
# What the rows of a selection have in common

A selection is a list of row indices, and one expects no answer about it to depend on their order. The
text that the rows have in common is looked for row by row: the first row is read, and each later one is
read and compared with it, up to the first that differs. Rows after that one are not read, so a row that
is not there makes the search fail only if it comes before.

* `commonValue_cons`: the search as a reading of the first row, and tests of the others in turn.
* `commonValue_eq_some_iff`: a text in common is found exactly if all rows have it, in whichever order.
* `not_agree_of_commonValue_eq_none`, `exists_commonValue_of_differ`: none is found only where two rows
  differ, and two rows that differ are enough where they come first.
* **`commonValue_order_iff`**: all orders of a selection give the same answer, or all fail, exactly if
  every row can be read or all rows that can be read agree.
* `commonValue_order_matters`: two rows that differ, and a third one that is not there.
-/

namespace DataGrid.Table

section definitions

variable (t : Table) (column : String)

/-- Whether the cell of a row has a text. -/
def hasText (text : String) (row : Nat) : Except TableError Bool := do
  let v ← t.value row column
  return v.text = text

/-- Whether the cell of a row can be read: the row and the column are there. -/
def Readable (row : Nat) : Prop := ∃ v, t.value row column = .ok v

/-- Whether the cells of some rows that can be read all have one text. -/
def Agree (rows : List Nat) : Prop :=
  ∀ a ∈ rows, ∀ b ∈ rows, ∀ v w, t.value a column = .ok v → t.value b column = .ok w → v.text = w.text

end definitions

variable {t : Table} {column text : String} {row a b : Nat} {rows xs ys : List Nat} {v w : Value}

/-! ## The search -/

/-- A cell that is read has its own text and no other. -/
theorem hasText_eq_ok (read : t.value row column = .ok v) (text : String) :
    t.hasText column text row = .ok (decide (v.text = text)) := by
  rw [hasText, read]
  rfl

/-- The test for a text succeeds exactly on the rows whose cells can be read and have it. -/
theorem hasText_eq_true_iff :
    t.hasText column text row = .ok true ↔ ∃ v, t.value row column = .ok v ∧ v.text = text := by
  simp only [hasText, bind_eq_ok, pure_eq_ok, decide_eq_true_eq]

/-- The first of some rows is read, and the search goes on with its text or ends. -/
theorem commonTextFrom_cons {i : Nat} (index : t.columnIndex? column = some i)
    (common : Option String) (row : Nat) (rows : List Nat) :
    t.commonTextFrom column i common (row :: rows) = (do
      let v ← t.value row column
      match common with
      | none => t.commonTextFrom column i (some v.text) rows
      | some text =>
        if v.text = text then t.commonTextFrom column i (some text) rows else .ok none) := by
  rw [commonTextFrom, value, requireColumn_eq_ok.mpr index]
  cases t.requireRow row <;> rfl

/-- Rows are compared with a text one after the other. -/
theorem commonTextFrom_eq_inTurn {i : Nat} (index : t.columnIndex? column = some i) (text : String)
    (rows : List Nat) :
    t.commonTextFrom column i (some text) rows =
      (inTurn (t.hasText column text) rows).map fun same => if same then some text else none := by
  induction rows with
  | nil => rfl
  | cons row rows ih =>
    rw [commonTextFrom_cons index, inTurn, hasText]
    cases t.value row column with
    | error e => rfl
    | ok v =>
      show (if v.text = text then t.commonTextFrom column i (some text) rows else .ok none) = _
      by_cases same : v.text = text
      · rw [if_pos same, ih]
        show _ = Except.map _ (if decide (v.text = text) = true then _ else _)
        rw [if_pos (decide_eq_true same)]
      · rw [if_neg same]
        show _ = Except.map _ (if decide (v.text = text) = true then _ else _)
        rw [if_neg (by simpa using same)]
        rfl

/-- **The first row is read, and the others are compared with it in turn.** -/
theorem commonValue_cons (t : Table) (row : Nat) (rows : List Nat) (column : String) :
    t.commonValue (row :: rows) column = (do
      let v ← t.value row column
      (inTurn (t.hasText column v.text) rows).map fun same => if same then some v.text else none) := by
  rw [commonValue]
  cases index : t.columnIndex? column with
  | none =>
    have unknown : t.requireColumn column = .error (.unknownColumn column) := by
      rw [requireColumn, index]
    rw [value, unknown]
    rfl
  | some i =>
    simp only [← commonTextFrom_eq_inTurn index]
    rw [requireColumn_eq_ok.mpr index]
    exact commonTextFrom_cons index none row rows

/-! ## Its outcomes -/

/-- The search succeeds exactly if the first row can be read and the others can be compared with it, as
far as that is needed; the text is found if all of them have it. -/
theorem commonValue_cons_eq_ok_iff {common : Option String} :
    t.commonValue (row :: rows) column = .ok common ↔
      ∃ v, t.value row column = .ok v ∧ ∃ same, inTurn (t.hasText column v.text) rows = .ok same ∧
        (if same then some v.text else none) = common := by
  rw [commonValue_cons, bind_eq_ok]
  refine exists_congr fun v => and_congr_right fun _ => ?_
  cases inTurn (t.hasText column v.text) rows <;> simp [Except.map]

/-- A text is found exactly if there are rows and all of them have it. -/
theorem commonValue_eq_some_iff :
    t.commonValue rows column = .ok (some text) ↔
      rows ≠ [] ∧ ∀ row ∈ rows, t.hasText column text row = .ok true := by
  cases rows with
  | nil =>
    rw [commonValue, bind_eq_ok]
    simp [commonTextFrom]
  | cons row rows =>
    rw [commonValue_cons_eq_ok_iff, List.forall_mem_cons, hasText_eq_true_iff]
    constructor
    · rintro ⟨v, read, same, tested, found⟩
      cases same with
      | false => cases found
      | true =>
        obtain rfl := Option.some.inj found
        exact ⟨List.cons_ne_nil _ _, ⟨v, read, rfl⟩, inTurn_eq_true_iff.mp tested⟩
    · rintro ⟨-, ⟨v, read, rfl⟩, all⟩
      exact ⟨v, read, true, inTurn_eq_true_iff.mpr all, rfl⟩

/-- None is found in some rows only where two of them differ. -/
theorem not_agree_of_commonValue_eq_none (nonempty : rows ≠ [])
    (h : t.commonValue rows column = .ok none) : ¬ t.Agree column rows := by
  intro agree
  cases rows with
  | nil => exact nonempty rfl
  | cons row rows =>
    obtain ⟨v, read, same, tested, found⟩ := commonValue_cons_eq_ok_iff.mp h
    cases same with
    | true => cases found
    | false =>
      obtain ⟨other, mem, differs⟩ := exists_of_inTurn_eq_false tested
      obtain ⟨w, read', ne⟩ := bind_eq_ok.mp differs
      have equal : w.text = v.text :=
        agree other (List.mem_cons_of_mem row mem) row List.mem_cons_self w v read' read
      exact absurd (pure_eq_ok.mp ne) (by simp [equal])

/-- The search does not fail where every row can be read. -/
theorem exists_commonValue_of_readable (nonempty : rows ≠ [])
    (readable : ∀ row ∈ rows, t.Readable column row) :
    ∃ common, t.commonValue rows column = .ok common := by
  cases rows with
  | nil => exact absurd rfl nonempty
  | cons row rows =>
    rw [List.forall_mem_cons] at readable
    obtain ⟨⟨v, read⟩, others⟩ := readable
    have tested : ∃ same, inTurn (t.hasText column v.text) rows = .ok same := by
      refine exists_inTurn_iff.mpr fun front other back split _ => ?_
      obtain ⟨w, read'⟩ := others other (by simp [split])
      exact ⟨_, hasText_eq_ok read' v.text⟩
    obtain ⟨same, tested⟩ := tested
    exact ⟨_, commonValue_cons_eq_ok_iff.mpr ⟨v, read, same, tested, rfl⟩⟩

/-- Nor does it fail where two rows that differ come first. -/
theorem exists_commonValue_of_differ (readA : t.value a column = .ok v)
    (readB : t.value b column = .ok w) (differ : v.text ≠ w.text) (rows : List Nat) :
    ∃ common, t.commonValue (a :: b :: rows) column = .ok common := by
  have differs : t.hasText column v.text b = .ok false := by
    rw [hasText_eq_ok readB, decide_eq_false differ.symm]
  exact ⟨_, commonValue_cons_eq_ok_iff.mpr
    ⟨v, readA, false, inTurn_cons_eq_ok_iff.mpr (.inr ⟨differs, rfl⟩), rfl⟩⟩

/-- It fails where a row that cannot be read comes first. -/
theorem not_exists_commonValue_of_not_readable (unreadable : ¬ t.Readable column row)
    (rows : List Nat) : ¬ ∃ common, t.commonValue (row :: rows) column = .ok common := by
  rintro ⟨common, h⟩
  obtain ⟨v, read, -⟩ := commonValue_cons_eq_ok_iff.mp h
  exact unreadable ⟨v, read⟩

/-- Where every row can be read, or all rows that can be read agree, the search fails exactly if some row
cannot be read. -/
theorem exists_commonValue_iff (nonempty : rows ≠ [])
    (plain : (∀ row ∈ rows, t.Readable column row) ∨ t.Agree column rows) :
    (∃ common, t.commonValue rows column = .ok common) ↔ ∀ row ∈ rows, t.Readable column row := by
  refine ⟨fun h row mem => ?_, exists_commonValue_of_readable nonempty⟩
  rcases plain with readable | agree
  · exact readable row mem
  · obtain ⟨common, h⟩ := h
    cases common with
    | none => exact absurd agree (not_agree_of_commonValue_eq_none nonempty h)
    | some text =>
      obtain ⟨v, read, -⟩ := hasText_eq_true_iff.mp ((commonValue_eq_some_iff.mp h).2 row mem)
      exact ⟨v, read⟩

/-! ## Orders of a selection -/

/-- Whether rows agree does not depend on their order. -/
theorem Agree.of_perm (agree : t.Agree column xs) (perm : ys.Perm xs) : t.Agree column ys :=
  fun a ha b hb => agree a (perm.subset ha) b (perm.subset hb)

/-- A text that is found in one order is found in every other one. -/
theorem commonValue_eq_some_of_perm (perm : ys.Perm xs)
    (h : t.commonValue xs column = .ok (some text)) : t.commonValue ys column = .ok (some text) := by
  obtain ⟨nonempty, all⟩ := commonValue_eq_some_iff.mp h
  refine commonValue_eq_some_iff.mpr ⟨?_, fun row mem => all row (perm.subset mem)⟩
  rintro rfl
  exact nonempty (List.nil_perm.mp perm)

/-- Two orders that do not fail have one answer. -/
theorem commonValue_eq_of_perm {x y : Option String} (perm : ys.Perm xs)
    (hx : t.commonValue xs column = .ok x) (hy : t.commonValue ys column = .ok y) : x = y := by
  cases x with
  | some text => exact Except.ok.inj ((commonValue_eq_some_of_perm perm hx).symm.trans hy)
  | none =>
    cases y with
    | none => rfl
    | some text => exact Except.ok.inj (hx.symm.trans (commonValue_eq_some_of_perm perm.symm hy))

/-- Where one row cannot be read and two others differ, one order fails and another one does not. -/
theorem exists_orders_apart (unread : ¬ ∀ row ∈ xs, t.Readable column row)
    (disagree : ¬ t.Agree column xs) :
    ∃ ys zs, ys.Perm xs ∧ zs.Perm xs ∧ (∃ common, t.commonValue ys column = .ok common) ∧
      ¬ ∃ common, t.commonValue zs column = .ok common := by
  simp only [Agree, not_forall] at unread disagree
  obtain ⟨bad, hbad, unreadable⟩ := unread
  obtain ⟨a, ha, b, hb, v, w, readA, readB, differ⟩ := disagree
  have ne : b ≠ a := by
    rintro rfl
    exact differ (congrArg Value.text (Except.ok.inj (readA.symm.trans readB)))
  -- One order starts with the two rows that differ, the other one with the row that cannot be read.
  have front : (a :: b :: (xs.erase a).erase b).Perm xs :=
    ((List.perm_cons_erase ((List.mem_erase_of_ne ne).mpr hb)).symm.cons a).trans
      (List.perm_cons_erase ha).symm
  exact ⟨_, _, front, (List.perm_cons_erase hbad).symm,
    exists_commonValue_of_differ readA readB differ _,
    not_exists_commonValue_of_not_readable unreadable _⟩

/-- **The order of a selection does not matter exactly if every row of it can be read, or all rows that can
be read agree.** Only whether there is an answer is at stake: two orders that have one have the same. -/
theorem commonValue_order_iff (t : Table) (column : String) (xs : List Nat) :
    (∀ ys, ys.Perm xs → ∀ x y, t.commonValue xs column = .ok x → t.commonValue ys column = .ok y →
      x = y) ∧
    ((∀ ys, ys.Perm xs → (t.commonValue ys column).toOption = (t.commonValue xs column).toOption) ↔
      (∀ row ∈ xs, t.Readable column row) ∨ t.Agree column xs) := by
  refine ⟨fun ys perm x y => commonValue_eq_of_perm perm, ?_⟩
  have alike (ys : List Nat) (perm : ys.Perm xs) :
      (t.commonValue ys column).toOption = (t.commonValue xs column).toOption ↔
        ((∃ y, t.commonValue ys column = .ok y) ↔ ∃ x, t.commonValue xs column = .ok x) :=
    toOption_eq_iff fun _ _ hy hx => (commonValue_eq_of_perm perm hx hy).symm
  constructor
  · intro same
    by_contra apart
    obtain ⟨unread, disagree⟩ := not_or.mp apart
    obtain ⟨ys, zs, permY, permZ, succeeds, fails⟩ := exists_orders_apart unread disagree
    have forth := (alike ys permY).mp (same ys permY)
    have back := (alike zs permZ).mp (same zs permZ)
    exact fails (back.mpr (forth.mp succeeds))
  · intro plain ys perm
    by_cases nonempty : xs = []
    · subst nonempty
      rw [List.perm_nil.mp perm]
    · have nonempty' : ys ≠ [] := fun h => nonempty (List.nil_perm.mp (h ▸ perm))
      have plain' : (∀ row ∈ ys, t.Readable column row) ∨ t.Agree column ys :=
        plain.imp (fun readable row mem => readable row (perm.subset mem)) fun agree => agree.of_perm perm
      rw [alike ys perm, exists_commonValue_iff nonempty plain, exists_commonValue_iff nonempty' plain']
      simp only [perm.mem_iff]

/-- Two rows differ, which is found out before a third one is looked for that is not there. In another
order the search fails. -/
theorem commonValue_order_matters :
    let t : Table := ⟨"People", [.named "NAME" .string],
      [.unchanged [.string "Ann"], .unchanged [.string "Bob"]]⟩
    [0, 7, 1].Perm [0, 1, 7] ∧ t.commonValue [0, 1, 7] "NAME" = .ok none ∧
      t.commonValue [0, 7, 1] "NAME" = .error (.rowOutOfRange 7 2) :=
  ⟨by decide, by decide, by decide⟩

end DataGrid.Table
