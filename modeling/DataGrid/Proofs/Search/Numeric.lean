import DataGrid.Proofs.Number.PlainNumeral
import DataGrid.Proofs.Search.Decision

/-!
# Searching numeric columns

In a numeric column a cell is compared with an operand by the binary numbers nearest to both. What
this decides about their exact values (`Filter.Decides`) is stated with **`Operator.Relates`**, the
relation that an operator stands for.

* `decides_of_places`: a comparison decides how the two nearest numbers compare.
* **`numeric_comparison`**: so it decides how the exact values compare as long as rounding tells
  them apart, and takes them for equal otherwise. Integers up to `2 ^ 53` are told apart, and so are
  all values that the format holds exactly.
* `numeric_comparison_not_exact`: beyond that, different values may be taken for equal.
-/

namespace DataGrid

open Binary64

/-! ## Operators as relations -/

/-- The relation that an operator stands for. A pattern stands for none. -/
def Operator.Relates {α : Type} [LT α] [LE α] (o : Operator) (x y : α) : Prop :=
  match o with
  | .equal => x = y
  | .notEqual => x ≠ y
  | .lessThan => x < y
  | .lessOrEqual => x ≤ y
  | .greaterThan => y < x
  | .greaterOrEqual => y ≤ x
  | .like => False

/-- An operator accepts the order of two values exactly if they stand in its relation. -/
theorem Operator.accepts_compare_iff {α : Type} [LinearOrder α] {o : Operator} {x y : α} :
    o.accepts (compare x y) = true ↔ o.Relates x y := by
  rcases lt_trichotomy x y with lt | rfl | gt
  · rw [compare_lt_iff_lt.mpr lt]
    cases o <;> simp [accepts, Relates, lt, lt.le, lt.ne, lt.not_gt, lt.not_ge]
  · rw [compare_eq_iff_eq.mpr rfl]
    cases o <;> simp [accepts, Relates]
  · rw [compare_gt_iff_gt.mpr gt]
    cases o <;> simp [accepts, Relates, gt, gt.le, gt.ne', gt.not_gt, gt.not_ge]

/-- Integers stand in the same relations as the rational numbers that they are. -/
theorem Operator.relates_intCast {o : Operator} {a b : ℤ} :
    o.Relates (a : ℚ) (b : ℚ) ↔ o.Relates a b := by
  cases o <;> simp [Relates]

/-- Equal values stand in the relations that say so, whatever they are. -/
theorem Operator.accepts_eq_iff {α : Type} [LinearOrder α] {o : Operator} {x : α} :
    o.accepts .eq = true ↔ o.Relates x x := by
  rw [← accepts_compare_iff, compare_eq_iff_eq.mpr rfl]

/-! ## One comparison -/

section

variable {t : Table} {kinds : ColumnKinds} {options : FilterOptions} {row index : Nat}
  {name operand : String} {r : Row} {v : Value} {o : Operator} {w : Char} {x y : Binary64}

/-- In a numeric column a readable operand is tested for as a number. -/
theorem Comparison.test_numeric (ne : o ≠ .like) (read : readOperand operand = .ok y) :
    Comparison.test ⟨name, o, operand⟩ .numeric options = .ok (.number y) := by
  cases o with
  | like => exact absurd rfl ne
  | _ => simp [Comparison.test, read]

/-- In a numeric column an operand that cannot be read is an error that names the comparison. -/
theorem Comparison.test_numeric_error (ne : o ≠ .like) {fault : OperandFault}
    (read : readOperand operand = .error fault) :
    Comparison.test ⟨name, o, operand⟩ .numeric options =
      .error (.invalidOperand name o operand fault) := by
  cases o with
  | like => exact absurd rfl ne
  | _ => simp [Comparison.test, read]

/-- A filter with such an operand is not resolved. -/
theorem resolve_error (column : t.findKind? kinds name = some (index, .numeric)) (ne : o ≠ .like)
    {fault : OperandFault} (read : readOperand operand = .error fault) :
    (Filter.mk [⟨name, o, operand⟩] w).resolve t kinds options =
      .error (.invalidOperand name o operand fault) := by
  rw [Filter.resolve, List.mapM_cons,
    Comparison.resolve_eq_error column (Comparison.test_numeric_error ne read)]
  rfl

/-- A comparison decides how the places of the two numbers compare. -/
theorem decides_of_places (options : FilterOptions) (w : Char)
    (column : t.findKind? kinds name = some (index, .numeric))
    (found : t.rows[row]? = some r) (cell : r.cell? index = some v) (ne : o ≠ .like)
    (read : readOperand operand = .ok y) (number : v.asNumber? = some x) {a b : ℤ}
    (ha : x.place? = some a) (hb : y.place? = some b) :
    (Filter.mk [⟨name, o, operand⟩] w).Decides t kinds options row
      (o.accepts (compare a b) = true) := by
  have shown : v.isNull = false := by
    cases v with
    | null => cases number
    | _ => rfl
  have compared : x.compare? y = some (compare a b) := by simp [compare?, ha, hb]
  apply Filter.decides_of_accepts column (Comparison.test_numeric ne read) found
  rw [ResolvedFilter.accepts_of_number rfl (by rw [cell, Option.getD_some]) shown number, compared,
    Option.any_some]

/-- A comparison decides how two exact values compare, as far as their nearest numbers tell. -/
theorem decides_of_nearest (options : FilterOptions) (w : Char)
    (column : t.findKind? kinds name = some (index, .numeric))
    (found : t.rows[row]? = some r) (cell : r.cell? index = some v) (ne : o ≠ .like)
    (read : readOperand operand = .ok y) (number : v.asNumber? = some x) {a b : ℚ}
    (ha : x.place? = some (place a)) (hb : y.place? = some (place b)) :
    (TellsApart a b →
      (Filter.mk [⟨name, o, operand⟩] w).Decides t kinds options row (o.Relates a b)) ∧
    (¬ TellsApart a b →
      (Filter.mk [⟨name, o, operand⟩] w).Decides t kinds options row (o.Relates a a)) := by
  have decides := decides_of_places options w column found cell ne read number ha hb
  constructor
  · intro apart
    exact decides.congr (by rw [apart.compare_place, Operator.accepts_compare_iff])
  · intro together
    exact decides.congr
      (by rw [compare_place_of_not_tellsApart together, Operator.accepts_eq_iff (x := a)])

end

/-! ## Cells and operands with exact values -/

/-- A plain numeral is read as the number nearest to its value, which has to be finite. -/
theorem readOperand_text (q : PlainNumeral) :
    readOperand q.text =
      if (nearest q.value).isFinite then .ok q.rounded else .error .notFinite := by
  rw [readOperand, PlainNumeral.text, String.toList_ofList, q.read_chars, ← q.isFinite_rounded]

/-- A decimal cell of a plain numeral holds the number nearest to its value. -/
theorem asNumber?_decimal (p : PlainNumeral) :
    (Value.decimal p.text).asNumber? = some p.rounded := by
  rw [Value.asNumber?, PlainNumeral.text, String.toList_ofList, Binary64.read?, p.read_trim_chars]
  rfl

/-- All integers of 64 bits have finite nearest numbers. -/
theorem isFinite_nearest_int64 (n : Int64) : (nearest n.toInt).isFinite = true := by
  have le : n.toInt.natAbs ≤ 2 ^ 63 := by
    have lo := Int64.le_toInt n
    have hi := Int64.toInt_lt n
    omega
  rw [isFinite_nearest, decide_eq_true_iff, nearestRank_intCast]
  calc rankOf (n.toInt.natAbs * unitScale) 1
      ≤ rankOf (2 ^ 63 * unitScale) 1 :=
        rankOf_mul_mono unitScale one_pos one_pos (Nat.mul_le_mul_right 1 le)
    _ < top := by decide +kernel

/-- The text of an integer of 64 bits is the plain numeral of the integer. -/
theorem text_ofInt (n : Int64) :
    String.ofList (Integer64.text n) = (PlainNumeral.ofInt n.toInt).text := by
  rw [Integer64.text, PlainNumeral.text, PlainNumeral.chars_ofInt]

/-- **A comparison in a numeric column is exact as far as rounding tells values apart.** For an
integer cell and the text of an integer it holds exactly if the integers stand in the relation of
the operator, unless they are different and have one nearest number, when it takes them for equal;
two integers up to `2 ^ 53` are never so. For a decimal cell and a plain numeral the same is true of
their values, where the format tells apart all that it holds exactly; an operand without a finite
nearest number is refused. -/
theorem numeric_comparison {t : Table} {kinds : ColumnKinds} {row index : Nat} {name : String}
    {r : Row} {o : Operator} (options : FilterOptions) (w : Char)
    (column : t.findKind? kinds name = some (index, .numeric)) (found : t.rows[row]? = some r)
    (ne : o ≠ .like) :
    (∀ a b : Int64, r.cell? index = some (.integer a) →
      let f : Filter := ⟨[⟨name, o, String.ofList (Integer64.text b)⟩], w⟩
      (TellsApart a.toInt b.toInt → f.Decides t kinds options row (o.Relates a.toInt b.toInt)) ∧
      (¬ TellsApart a.toInt b.toInt →
        f.Decides t kinds options row (o.Relates a.toInt a.toInt)) ∧
      (a.toInt.natAbs ≤ 2 ^ 53 → b.toInt.natAbs ≤ 2 ^ 53 → TellsApart a.toInt b.toInt)) ∧
    (∀ p q : PlainNumeral, r.cell? index = some (.decimal p.text) →
      let f : Filter := ⟨[⟨name, o, q.text⟩], w⟩
      ((nearest q.value).isFinite = true →
        (TellsApart p.value q.value →
          f.Decides t kinds options row (o.Relates p.value q.value)) ∧
        (¬ TellsApart p.value q.value →
          f.Decides t kinds options row (o.Relates p.value p.value))) ∧
      ((nearest q.value).isFinite = false →
        f.resolve t kinds options = .error (.invalidOperand name o q.text .notFinite)) ∧
      (Representable p.value → Representable q.value → TellsApart p.value q.value)) := by
  constructor
  · intro a b cell f
    have number : (Value.integer a).asNumber? = some (nearest a.toInt) := by
      rw [Value.asNumber?, ofInt_eq_nearest]
    have read : readOperand (String.ofList (Integer64.text b)) =
        .ok (PlainNumeral.ofInt b.toInt).rounded := by
      rw [text_ofInt, readOperand_text, PlainNumeral.value_ofInt, isFinite_nearest_int64, if_pos rfl]
    have operand := (PlainNumeral.ofInt b.toInt).place?_rounded
    rw [PlainNumeral.value_ofInt] at operand
    obtain ⟨apart, together⟩ :=
      decides_of_nearest options w column found cell ne read number (place?_nearest _) operand
    refine ⟨fun h => (apart h).congr Operator.relates_intCast,
      fun h => (together h).congr Operator.relates_intCast, fun ha hb => ?_⟩
    exact .of_representable (representable_intCast ha) (representable_intCast hb)
  · intro p q cell f
    refine ⟨fun finite => ?_, fun infinite => ?_, .of_representable⟩
    · have read := readOperand_text q
      rw [if_pos finite] at read
      exact decides_of_nearest options w column found cell ne read (asNumber?_decimal p)
        p.place?_rounded q.place?_rounded
    · have read := readOperand_text q
      rw [if_neg (by simp [infinite])] at read
      exact resolve_error column ne read

/-- An integer with no number of its own, a negative decimal, and an operand beyond all numbers. -/
theorem numeric_comparison_orders :
    let p : PlainNumeral := ⟨some true, ['0'], some ['5', '0'], List.all_eq_true.mp rfl,
      List.all_eq_true.mp rfl, by simp⟩
    let q : PlainNumeral := ⟨none, ['0'], some ['3'], List.all_eq_true.mp rfl,
      List.all_eq_true.mp rfl, by simp⟩
    let q' : PlainNumeral := ⟨none, '1' :: List.replicate 309 '0', none,
      List.all_eq_true.mp (by decide +kernel), List.all_eq_true.mp rfl, by decide⟩
    let a : Int64 := 9007199254740993
    let b : Int64 := 9007199254740994
    let r : Row := .unchanged [.integer a, .decimal p.text]
    let t : Table := ⟨"Orders", [.named "ID" .number, .named "SUM" .number], [r]⟩
    let id : Filter := ⟨[⟨"ID", .lessThan, String.ofList (Integer64.text b)⟩], '%'⟩
    let sum : Filter := ⟨[⟨"SUM", .greaterOrEqual, q.text⟩], '%'⟩
    let huge : Filter := ⟨[⟨"SUM", .greaterOrEqual, q'.text⟩], '%'⟩
    (t.findKind? .empty "ID" = some (0, .numeric) ∧ t.findKind? .empty "SUM" = some (1, .numeric) ∧
      t.rows[0]? = some r ∧ r.cell? 0 = some (.integer a) ∧ r.cell? 1 = some (.decimal p.text) ∧
      TellsApart a.toInt b.toInt ∧ TellsApart p.value q.value ∧
      (nearest q.value).isFinite = true ∧ (nearest q'.value).isFinite = false) ∧
    id.Decides t .empty {} 0 (Operator.lessThan.Relates a.toInt b.toInt) ∧
    sum.Decides t .empty {} 0 (Operator.greaterOrEqual.Relates p.value q.value) ∧
    huge.resolve t .empty {} =
      .error (.invalidOperand "SUM" .greaterOrEqual q'.text .notFinite) := by
  intro p q q' a b r t id sum huge
  have columnId : t.findKind? .empty "ID" = some (0, .numeric) := by decide +kernel
  have columnSum : t.findKind? .empty "SUM" = some (1, .numeric) := by decide +kernel
  have found : t.rows[0]? = some r := rfl
  have cellId : r.cell? 0 = some (.integer a) := rfl
  have cellSum : r.cell? 1 = some (.decimal p.text) := rfl
  have apartId : TellsApart a.toInt b.toInt := by decide +kernel
  have apartSum : TellsApart p.value q.value := by decide +kernel
  have finite : (nearest q.value).isFinite = true := by decide +kernel
  have infinite : (nearest q'.value).isFinite = false := by decide +kernel
  have comparedId :=
    (numeric_comparison {} '%' columnId found (o := .lessThan) (by decide)).1 a b cellId
  have comparedSum := numeric_comparison {} '%' columnSum found (o := .greaterOrEqual) (by decide)
  exact ⟨⟨columnId, columnSum, found, cellId, cellSum, apartId, apartSum, finite, infinite⟩,
    comparedId.1 apartId, ((comparedSum.2 p q cellSum).1 finite).1 apartSum,
    (comparedSum.2 p q' cellSum).2.1 infinite⟩

/-- **Values that rounding makes equal are not told apart**: not an odd integer beyond `2 ^ 53` from
the one before it, nor two decimals with twenty places. -/
theorem numeric_comparison_not_exact :
    let p : PlainNumeral := ⟨none, ['0'], some "10000000000000000001".toList,
      List.all_eq_true.mp rfl, List.all_eq_true.mp (by decide), by simp⟩
    let q : PlainNumeral := ⟨none, ['0'], some ['1'], List.all_eq_true.mp rfl,
      List.all_eq_true.mp rfl, by simp⟩
    let t : Table := ⟨"Orders", [.named "ID" .number, .named "SUM" .number],
      [.unchanged [.integer 9007199254740993, .decimal p.text]]⟩
    let id : Filter := ⟨[⟨"ID", .equal, "9007199254740992"⟩], '%'⟩
    let sum : Filter := ⟨[⟨"SUM", .equal, q.text⟩], '%'⟩
    ¬ id.Decides t .empty {} 0
        (Operator.equal.Relates (9007199254740993 : ℤ) (9007199254740992 : ℤ)) ∧
      ¬ sum.Decides t .empty {} 0 (Operator.equal.Relates p.value q.value) := by
  intro p q t id sum
  constructor
  · let f : ResolvedFilter := ⟨[⟨"ID", 0, .equal, .number (.ofInt 9007199254740992)⟩], '%', false⟩
    intro exact
    have resolved : id.resolve t .empty {} = .ok f := by decide +kernel
    have matched : f.isMatch t 0 = .ok true := by decide +kernel
    have equal : (9007199254740993 : ℤ) = 9007199254740992 :=
      (exact.iff_of_isMatch resolved matched).mp rfl
    exact absurd equal (by decide)
  · let f : ResolvedFilter := ⟨[⟨"SUM", 1, .equal, .number q.rounded⟩], '%', false⟩
    intro exact
    have resolved : sum.resolve t .empty {} = .ok f := by decide +kernel
    have matched : f.isMatch t 0 = .ok true := by decide +kernel
    have equal : p.value = q.value := (exact.iff_of_isMatch resolved matched).mp rfl
    exact absurd equal (by decide +kernel)

end DataGrid
