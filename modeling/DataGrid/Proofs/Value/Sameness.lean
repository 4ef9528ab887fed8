import DataGrid.Changes

/-!
# When two cells are the same

Cells are compared in two ways. `Value.equals` looks at form and contents, but it takes the two zeros
for one number and finds that not-a-number equals nothing, and it does so in these cases only
(`equals_iff`); **`Value.Same`** mends the latter, which makes it reflexive (`same_refl`) and is kept by
equality (`same_of_same_of_equals`). `Value.differs` looks at what a cell shows: `differs_iff` says that
it is a difference in being null or in text, for bytes too, since their digits tell them apart. So two
zeros of different sign are equal and yet show something different. Not to differ is an equivalence, in
which a cell of one form may stand for a cell of another (**`not_differs_equivalence`**).
-/

namespace DataGrid.Value

open Text

/-- Whether two cells hold the same: they are equal, or both are not-a-number. -/
def Same (v w : Value) : Prop := v.equals w = true ∨ (v = .float .nan ∧ w = .float .nan)

/-- A cell holds the same as itself, not-a-number too. -/
theorem same_refl (v : Value) : v.Same v := by
  cases v with
  | float x =>
    cases x with
    | nan => exact .inr ⟨rfl, rfl⟩
    | ranked negative rank =>
      obtain ⟨p, hp⟩ : ∃ p, (Binary64.ranked negative rank).place? = some p := by
        cases negative <;> exact ⟨_, rfl⟩
      exact .inl ((Binary64.equals_iff _ _).mpr ⟨p, hp, hp⟩)
  | null | boolean | integer | decimal | string | bytes => exact .inl (by simp [equals])

/-- Equal cells that are not both numbers of the binary format are one and the same. -/
theorem eq_or_float_of_equals {v w : Value} (h : v.equals w = true) :
    v = w ∨ ∃ x y, v = .float x ∧ w = .float y ∧ x.equals y = true := by
  cases v with
  | float x =>
    cases w with
    | float y => exact .inr ⟨x, y, rfl, rfl, h⟩
    | null | boolean | integer | decimal | string | bytes => simp [equals] at h
  | null | boolean | integer | decimal | string | bytes => exact .inl (by simpa [equals] using h)

/-- Not-a-number equals nothing, from either side. -/
theorem nan_not_equals (x : Binary64) :
    Binary64.nan.equals x = false ∧ x.equals .nan = false := by
  constructor <;> simp [Binary64.equals, Binary64.compare?, Binary64.place?]

/-- What equals a cell that holds the same holds the same. -/
theorem same_of_same_of_equals {u v w : Value} (h : u.Same v) (h' : v.equals w = true) : u.Same w := by
  rcases eq_or_float_of_equals h' with rfl | ⟨y, z, rfl, rfl, hyz⟩
  · exact h
  · rcases h with h | ⟨-, h⟩
    · rcases eq_or_float_of_equals h with rfl | ⟨x, y', rfl, hy, hxy⟩
      · exact .inl hyz
      · cases hy
        obtain ⟨p, hx, hy⟩ := (Binary64.equals_iff x y).mp hxy
        obtain ⟨q, hy', hz⟩ := (Binary64.equals_iff y z).mp hyz
        have : p = q := Option.some.inj (hy.symm.trans hy')
        exact .inl ((Binary64.equals_iff x z).mpr ⟨p, hx, this ▸ hz⟩)
    · cases h
      rw [(nan_not_equals z).1] at hyz
      cases hyz

/-- Whether a cell holds a zero of the binary format, with either sign. -/
def IsZero (v : Value) : Prop := ∃ negative, v = .float (.ranked negative 0)

instance (v : Value) : Decidable v.IsZero :=
  inferInstanceAs (Decidable (∃ negative, v = .float (.ranked negative 0)))

/-- Numbers that are equal are one and the same, or are zeros. -/
theorem eq_or_zeros_of_equals {x y : Binary64} (h : x.equals y = true) :
    x = y ∨ ((Value.float x).IsZero ∧ (Value.float y).IsZero) := by
  obtain ⟨p, hx, hy⟩ := (Binary64.equals_iff x y).mp h
  cases x with
  | nan => cases hx
  | ranked negative rank =>
    cases y with
    | nan => cases hy
    | ranked negative' rank' =>
      have places := hx.trans hy.symm
      -- places of different sign meet at zero only
      have ranks : rank.val = rank'.val ∧ (negative = negative' ∨ rank.val = 0) := by
        cases negative <;> cases negative' <;>
          simp only [Binary64.place?, Option.some.injEq, reduceCtorEq, true_or, false_or,
            and_true] at places ⊢ <;> omega
      obtain ⟨same, rfl | zero⟩ := ranks
      · exact .inl (by rw [Fin.ext same])
      · have hr : rank = 0 := Fin.ext zero
        have hr' : rank' = 0 := Fin.ext (same.symm.trans zero)
        subst hr hr'
        exact .inr ⟨⟨negative, rfl⟩, negative', rfl⟩

/-- Zeros are equal whatever their signs. -/
theorem IsZero.equals {v w : Value} (hv : v.IsZero) (hw : w.IsZero) : v.equals w = true := by
  obtain ⟨negative, rfl⟩ := hv
  obtain ⟨negative', rfl⟩ := hw
  exact (Binary64.equals_iff _ _).mpr ⟨0, by cases negative <;> rfl, by cases negative' <;> rfl⟩

/-- No cell equals one that is not-a-number. -/
theorem not_equals_nan (v : Value) : v.equals (.float .nan) = false := by
  cases v with
  | float x => exact (nan_not_equals x).2
  | null | boolean | integer | decimal | string | bytes => simp [equals]

/-- Two cells are equal exactly if they are one and the same, and not not-a-number, or are zeros. -/
theorem equals_iff (v w : Value) :
    v.equals w = true ↔ (v = w ∧ v ≠ .float .nan) ∨ (v.IsZero ∧ w.IsZero) := by
  constructor
  · intro h
    have number : w ≠ .float .nan := by
      rintro rfl
      rw [not_equals_nan] at h
      cases h
    rcases eq_or_float_of_equals h with rfl | ⟨x, y, rfl, rfl, hxy⟩
    · exact .inl ⟨rfl, number⟩
    · rcases eq_or_zeros_of_equals hxy with rfl | zeros
      · exact .inl ⟨rfl, number⟩
      · exact .inr zeros
  · rintro (⟨rfl, number⟩ | ⟨hv, hw⟩)
    · rcases v.same_refl with h | ⟨nan, -⟩
      · exact h
      · exact absurd nan number
    · exact hv.equals hw

/-- The one cell that does not equal itself is not-a-number. -/
theorem equals_self_iff (v : Value) : v.equals v = true ↔ v ≠ .float .nan := by
  rw [equals_iff]
  constructor
  · rintro (⟨-, number⟩ | ⟨⟨negative, rfl⟩, -⟩)
    · exact number
    · simp
  · exact fun number => .inl ⟨rfl, number⟩

/-- Cells with different bytes have different texts. -/
theorem text_bytes_inj {a b : List UInt8} (h : (Value.bytes a).text = (Value.bytes b).text) :
    a = b :=
  ofBytes_inj (String.ofList_injective h)

/-- A cell shows something different exactly if it became null or ceased to be null, or if its text is
another one. -/
theorem differs_iff (v w : Value) :
    v.differs w = true ↔ v.isNull ≠ w.isNull ∨ v.text ≠ w.text := by
  cases v with
  | null => cases w <;> simp [differs, isNull]
  | bytes a =>
    cases w with
    | null => simp [differs, isNull]
    | bytes b =>
      have : (Value.bytes a).text = (Value.bytes b).text ↔ a = b :=
        ⟨text_bytes_inj, fun h => h ▸ rfl⟩
      simp [differs, isNull, this]
    | boolean | integer | float | decimal | string => simp [differs, isNull]
  | boolean | integer | float | decimal | string => cases w <;> simp [differs, isNull]

/-! ## Cells that do not differ -/

/-- Two cells do not differ exactly if both are null or neither is, and they have the same text. -/
theorem not_differs_iff {v w : Value} :
    v.differs w = false ↔ v.isNull = w.isNull ∧ v.text = w.text := by
  rw [← Bool.not_eq_true, differs_iff, not_or, Decidable.not_not, Decidable.not_not]

/-- No cell differs from itself. -/
theorem not_differs_refl (v : Value) : v.differs v = false := not_differs_iff.mpr ⟨rfl, rfl⟩

/-- It does not matter which of two cells is compared with which. -/
theorem not_differs_symm {v w : Value} (h : v.differs w = false) : w.differs v = false := by
  obtain ⟨null, text⟩ := not_differs_iff.mp h
  exact not_differs_iff.mpr ⟨null.symm, text.symm⟩

/-- Cells that do not differ from a third do not differ from each other. -/
theorem not_differs_trans {u v w : Value} (h : u.differs v = false) (h' : v.differs w = false) :
    u.differs w = false := by
  obtain ⟨null, text⟩ := not_differs_iff.mp h
  obtain ⟨null', text'⟩ := not_differs_iff.mp h'
  exact not_differs_iff.mpr ⟨null.trans null', text.trans text'⟩

/-- **Not to differ is one notion of sameness.** Two cells do not differ exactly if both are null, or
neither is and they have the same text. For bytes, which are compared as such, this comes to the same as
a comparison of their digits. So no cell differs from itself, and cells that do not differ from one cell
do not differ from each other, whatever their forms are. -/
theorem not_differs_equivalence :
    (∀ v w : Value, v.differs w = false ↔
      (v = .null ∧ w = .null) ∨ (v ≠ .null ∧ w ≠ .null ∧ v.text = w.text)) ∧
    (∀ a b : List UInt8, (Value.bytes a).differs (.bytes b) =
      (String.ofList (ofBytes a) != String.ofList (ofBytes b))) ∧
    Equivalence fun v w : Value => v.differs w = false := by
  refine ⟨?_, ?_, ⟨not_differs_refl, not_differs_symm, not_differs_trans⟩⟩
  · intro v w
    rw [not_differs_iff]
    constructor
    · rintro ⟨null, text⟩
      by_cases hv : v = .null
      · have hw : w = .null := isNull_iff.mp (null.symm.trans (isNull_iff.mpr hv))
        exact .inl ⟨hv, hw⟩
      · have hw : w ≠ .null := isNull_eq_false_iff.mp (null.symm.trans (isNull_eq_false_iff.mpr hv))
        exact .inr ⟨hv, hw, text⟩
    · rintro (⟨rfl, rfl⟩ | ⟨hv, hw, text⟩)
      · exact ⟨rfl, rfl⟩
      · exact ⟨(isNull_eq_false_iff.mpr hv).trans (isNull_eq_false_iff.mpr hw).symm, text⟩
  · intro a b
    have digits : a ≠ b ↔ String.ofList (ofBytes a) ≠ String.ofList (ofBytes b) :=
      not_congr ⟨fun h => h ▸ rfl, text_bytes_inj⟩
    show (a != b) = _
    rw [Bool.eq_iff_iff, bne_iff_ne, bne_iff_ne]
    exact digits

end DataGrid.Value
