import DataGrid.Number.Integer64
import DataGrid.Number.Numeral
import DataGrid.Proofs.Number.Rounding
import DataGrid.Proofs.Text.Pieces

/-!
# Plain decimal numerals

A **`PlainNumeral`** is a numeral without an exponent: an optional sign, digits, and a fraction if
there is one. It has an exact **`value`**, and reading its text gives the number nearest to that
value (**`read_chars`**), however many digits there are. The text of an integer is such a numeral
(`ofInt`).
-/

namespace DataGrid

open Text

/-! ## Digits -/

namespace Text

/-- Digits in front count by the power of ten that the digits after them have. -/
theorem ofDigits_append (s t : List Char) :
    ofDigits (s ++ t) = ofDigits s * 10 ^ t.length + ofDigits t := by
  induction t using List.reverseRecOn with
  | nil => simp [ofDigits]
  | append_singleton t c ih =>
    rw [← List.append_assoc, ofDigits_append_singleton, ofDigits_append_singleton, ih,
      List.length_append, List.length_singleton, Nat.pow_succ]
    ring

/-- Zeros alone stand for zero. -/
theorem ofDigits_replicate_zero (k : Nat) : ofDigits (List.replicate k '0') = 0 := by
  induction k with
  | zero => rfl
  | succ k ih =>
    rw [List.replicate_succ', ofDigits_append_singleton, ih]
    rfl

/-- Zeros in front count for nothing. -/
theorem ofDigits_zeros_append (k : Nat) (s : List Char) :
    ofDigits (List.replicate k '0' ++ s) = ofDigits s := by
  rw [ofDigits_append, ofDigits_replicate_zero, Nat.zero_mul, Nat.zero_add]

/-- A run of zeros is made of digits. -/
theorem isDigit_of_mem_replicate_zero {k : Nat} :
    ∀ c ∈ List.replicate k '0', isDigit c = true := by
  intro c hc
  rw [List.eq_of_mem_replicate hc]
  rfl

/-- The digits are the characters from code point 48 to 57. -/
theorem isDigit_iff {c : Char} : isDigit c = true ↔ 48 ≤ c.toNat ∧ c.toNat ≤ 57 := by
  rw [isDigit, Bool.and_eq_true, decide_eq_true_iff, decide_eq_true_iff]
  rfl

/-- No digit is a blank. -/
theorem isBlank_of_isDigit {c : Char} (h : isDigit c = true) : isBlank c = false := by
  have range := isDigit_iff.mp h
  rw [isBlank, inRanges, List.any_eq_false]
  intro r hr
  simp only [blankRanges, List.mem_cons, List.not_mem_nil, or_false] at hr
  rw [Bool.and_eq_true, decide_eq_true_iff, decide_eq_true_iff]
  rcases hr with rfl | rfl | rfl | rfl | rfl | rfl | rfl | rfl | rfl | rfl <;> omega

end Text

/-- A numeral without an exponent. -/
structure PlainNumeral where
  /-- Whether the sign, if there is one, is a minus. -/
  sign : Option Bool
  whole : List Char
  /-- The digits after the point, if there is a point. -/
  fraction : Option (List Char)
  isDigit_of_mem_whole : ∀ c ∈ whole, isDigit c = true
  isDigit_of_mem_fraction : ∀ c ∈ fraction.getD [], isDigit c = true
  digits_ne_nil : whole ++ fraction.getD [] ≠ []

namespace PlainNumeral

variable (p : PlainNumeral)

/-- The digits after the point. -/
def places : List Char := p.fraction.getD []

/-- Whether the numeral has a minus. -/
def isNegative : Bool := p.sign.getD false

/-- A sign as it is written. -/
def signChars : Option Bool → List Char
  | none => []
  | some true => ['-']
  | some false => ['+']

/-- A fraction as it is written, with its point. -/
def fractionChars : Option (List Char) → List Char
  | none => []
  | some s => '.' :: s

/-- The text of a numeral. -/
def chars : List Char := signChars p.sign ++ (p.whole ++ fractionChars p.fraction)

/-- The text of a numeral. -/
def text : String := String.ofList p.chars

/-- What a numeral stands for without its sign. -/
def magnitude : ℚ := ofDigits p.whole + (ofDigits p.places : ℚ) / 10 ^ p.places.length

/-- What a numeral stands for. -/
def value : ℚ := if p.isNegative then -p.magnitude else p.magnitude

/-! ## Reading -/

/-- A fraction starts with its point, so the digits before it end there. -/
theorem fractionChars_head? (fraction : Option (List Char)) :
    ∀ c ∈ (fractionChars fraction).head?, isDigit c = false := by
  cases fraction with
  | none => simp [fractionChars]
  | some s =>
    rintro c hc
    cases hc
    rfl

/-- A fraction is split off with the digits that it is written with. -/
theorem splitFraction_fractionChars {fraction : Option (List Char)}
    (digits : ∀ c ∈ fraction.getD [], isDigit c = true) :
    Numeral.splitFraction (fractionChars fraction) = (fraction.getD [], []) := by
  cases fraction with
  | none => rfl
  | some s =>
    have taken : (s ++ []).takeWhile isDigit = s := takeWhile_word digits (by simp)
    have left : (s ++ []).dropWhile isDigit = [] := dropWhile_word digits (by simp)
    rw [List.append_nil] at taken left
    rw [fractionChars, Numeral.splitFraction, taken, left, Option.getD_some]

/-- Without its sign a numeral is read as all its digits, with the exponent that its places give. -/
theorem unsigned?_chars :
    Numeral.unsigned? (p.whole ++ fractionChars p.fraction) =
      some (ofDigits (p.whole ++ p.places), -(p.places.length : ℤ)) := by
  have ends := fractionChars_head? p.fraction
  have some_digits : (p.whole.isEmpty && p.places.isEmpty) = false := by
    have := p.digits_ne_nil
    simpa [places] using this
  simp only [Numeral.unsigned?]
  rw [takeWhile_word p.isDigit_of_mem_whole ends, dropWhile_word p.isDigit_of_mem_whole ends,
    splitFraction_fractionChars p.isDigit_of_mem_fraction]
  show (if (p.whole.isEmpty && p.places.isEmpty) = true then none else _) = _
  rw [some_digits]
  simp [Numeral.exponent?, places]

/-- Where no sign stands in front, none is split off. -/
theorem splitSign_of_head? {s : List Char} (h : ∀ c ∈ s.head?, c ≠ '-' ∧ c ≠ '+') :
    splitSign s = (false, s) := by
  unfold splitSign
  split
  · exact absurd rfl (h '-' rfl).1
  · exact absurd rfl (h '+' rfl).2
  · rfl

/-- The sign of a numeral is split off, and the rest is as it was written. -/
theorem splitSign_chars :
    splitSign p.chars = (p.isNegative, p.whole ++ fractionChars p.fraction) := by
  rw [chars, isNegative]
  cases p.sign with
  | some minus => cases minus <;> rfl
  | none =>
    -- Without a sign the text starts with a digit or with the point.
    refine splitSign_of_head? fun c hc => ?_
    have digit_or_point : isDigit c = true ∨ c = '.' := by
      cases hw : p.whole with
      | cons d whole =>
        rw [hw] at hc
        cases hc
        exact .inl (p.isDigit_of_mem_whole _ (by simp [hw]))
      | nil =>
        rw [hw] at hc
        cases hf : p.fraction with
        | none => simp [hf, fractionChars, signChars] at hc
        | some s =>
          rw [hf] at hc
          cases hc
          exact .inr rfl
    rcases digit_or_point with digit | rfl
    · constructor <;> rintro rfl <;> cases digit
    · decide

/-- A plain numeral is read with its own sign, digits and places. -/
theorem read?_chars :
    Numeral.read? p.chars =
      some ⟨p.isNegative, ofDigits (p.whole ++ p.places), -(p.places.length : ℤ)⟩ := by
  simp only [Numeral.read?]
  rw [splitSign_chars]
  simp [unsigned?_chars]

/-- The text of a numeral is not empty. -/
theorem chars_ne_nil : p.chars ≠ [] := by
  intro nil
  have ⟨noSign, rest⟩ := List.append_eq_nil_iff.mp nil
  have ⟨noWhole, noFraction⟩ := List.append_eq_nil_iff.mp rest
  refine p.digits_ne_nil ?_
  rw [noWhole]
  cases hf : p.fraction with
  | none => rfl
  | some s => simp [hf, fractionChars] at noFraction

/-- There is no blank in the text of a numeral. -/
theorem isBlank_of_mem_chars : ∀ c ∈ p.chars, isBlank c = false := by
  intro c hc
  rcases List.mem_append.mp hc with hc | hc
  · cases hs : p.sign with
    | none => simp [hs, signChars] at hc
    | some minus => cases minus <;> simp [hs, signChars] at hc <;> subst hc <;> decide
  rcases List.mem_append.mp hc with hc | hc
  · exact isBlank_of_isDigit (p.isDigit_of_mem_whole c hc)
  · cases hf : p.fraction with
    | none => simp [hf, fractionChars] at hc
    | some s =>
      rw [hf, fractionChars] at hc
      rcases List.mem_cons.mp hc with rfl | hc
      · decide
      · exact isBlank_of_isDigit (p.isDigit_of_mem_fraction c (by rwa [hf]))

/-! ## Rounding -/

/-- Digits so far behind the point count for nothing. -/
theorem rankOf_far_behind {digits places : Nat} (h : digits.log2 + 1100 ≤ places) :
    Binary64.rankOf (digits * Binary64.unitScale) (10 ^ places) = 0 := by
  have unit : Binary64.unitScale.log2 = 1074 := by decide +kernel
  have product : digits * Binary64.unitScale <
      2 ^ (digits.log2 + 1) * 2 ^ (Binary64.unitScale.log2 + 1) :=
    Nat.mul_lt_mul'' Nat.lt_log2_self Nat.lt_log2_self
  rw [← Nat.pow_add] at product
  refine Binary64.rankOf_eq_zero ?_
  calc 2 * (digits * Binary64.unitScale)
      < 2 * 2 ^ (digits.log2 + 1 + (Binary64.unitScale.log2 + 1)) :=
        Nat.mul_lt_mul_of_pos_left product (by decide)
    _ = 2 ^ (digits.log2 + 1 + (Binary64.unitScale.log2 + 1) + 1) := by rw [Nat.pow_succ']
    _ ≤ 2 ^ places := Nat.pow_le_pow_right (by decide) (by omega)
    _ ≤ 10 ^ places := Nat.pow_le_pow_left (by decide) places

/-- A rank does not depend on where the exponent is cut off. -/
theorem rank_neg (digits places : Nat) :
    Numeral.rank digits (-(places : ℤ)) =
      Binary64.rankOf (digits * Binary64.unitScale) (10 ^ places) := by
  cases places with
  | zero => simp [Numeral.rank]
  | succ k =>
    rw [Nat.cast_succ, ← Int.negSucc_eq, Numeral.rank]
    rcases Nat.le_total (k + 1) (digits.log2 + 1100) with near | far
    · rw [Nat.min_eq_left near]
      rfl
    · rw [Nat.min_eq_right far]
      exact (rankOf_far_behind (Nat.le_refl _)).trans (rankOf_far_behind far).symm

/-- The same for a positive exponent: beyond the cut every numeral but zero is infinite. -/
theorem rank_natCast (digits e : Nat) :
    Numeral.rank digits (e : ℤ) = Binary64.rankOf (digits * 10 ^ e * Binary64.unitScale) 1 := by
  have cut : Numeral.rank digits (e : ℤ) =
      Binary64.rankOf (digits * 10 ^ min e Numeral.largestExponent * Binary64.unitScale) 1 := rfl
  rcases Nat.le_total e Numeral.largestExponent with small | large
  · rw [cut, Nat.min_eq_left small]
  rcases Nat.eq_zero_or_pos digits with rfl | pos
  · rw [cut]
    simp only [Nat.zero_mul]
  have infinite {k : Nat} (h : Numeral.largestExponent ≤ k) :
      Binary64.rankOf (digits * 10 ^ k * Binary64.unitScale) 1 = Binary64.top := by
    refine Binary64.rankOf_eq_top ?_
    calc Binary64.units Binary64.top
        ≤ 1 * 10 ^ Numeral.largestExponent * Binary64.unitScale := by decide +kernel
      _ ≤ digits * 10 ^ k * Binary64.unitScale :=
        Nat.mul_le_mul_right _ (Nat.mul_le_mul pos (Nat.pow_le_pow_right (by decide) h))
  rw [cut, Nat.min_eq_right large, infinite (Nat.le_refl _), infinite large]

/-- The magnitude is all digits in one run, over the power of ten of the places. -/
theorem magnitude_eq :
    p.magnitude = (ofDigits (p.whole ++ p.places) : ℚ) / ((10 ^ p.places.length : Nat) : ℚ) := by
  have pos : (0 : ℚ) < 10 ^ p.places.length := by positivity
  rw [magnitude, ofDigits_append]
  push_cast
  rw [add_div, mul_div_cancel_right₀ _ pos.ne']

/-- A magnitude is not negative. -/
theorem magnitude_nonneg : 0 ≤ p.magnitude := by
  rw [magnitude]
  positivity

/-- Without its sign a numeral stands for its magnitude. -/
theorem abs_value : |p.value| = p.magnitude := by
  rw [value]
  split
  · rw [abs_neg, abs_of_nonneg p.magnitude_nonneg]
  · exact abs_of_nonneg p.magnitude_nonneg

/-- The number that a plain numeral is read as. -/
def rounded : Binary64 :=
  Numeral.round ⟨p.isNegative, ofDigits (p.whole ++ p.places), -(p.places.length : ℤ)⟩

/-- The digits of a plain numeral have the rank of the number nearest to its value. -/
theorem rank_rounded :
    Numeral.rank (ofDigits (p.whole ++ p.places)) (-(p.places.length : ℤ)) =
      Binary64.nearestRank p.value := by
  rw [rank_neg]
  exact Binary64.rankOf_eq_nearestRank (Nat.pow_pos (by decide)) (by rw [abs_value, magnitude_eq])

/-- **Reading a plain numeral gives the number nearest to its value**, up to the sign of a zero. -/
theorem read_chars : Binary64.read p.chars = .ok p.rounded := by
  have nonempty : p.chars.isEmpty = false := by simpa using p.chars_ne_nil
  rw [Binary64.read, nonempty, read?_chars]
  rfl

/-- Trimming does nothing to a plain numeral, which is read as before. -/
theorem read_trim_chars : Binary64.read (trim p.chars) = .ok p.rounded := by
  rw [trim_eq_self p.isBlank_of_mem_chars, p.read_chars]

/-- A plain numeral is read as a number with its own sign and the rank nearest to its value. -/
theorem rounded_eq :
    ∃ h, p.rounded = .ranked p.isNegative ⟨Binary64.nearestRank p.value, h⟩ := by
  rw [← p.rank_rounded]
  exact ⟨_, rfl⟩

/-- A minus before digits that are all zero does not make the value negative. -/
theorem place?_rounded : p.rounded.place? = some (Binary64.place p.value) := by
  obtain ⟨h, rounded⟩ := p.rounded_eq
  have nonneg := p.magnitude_nonneg
  rw [rounded, Binary64.place?_ranked, Binary64.place]
  congr 1
  by_cases negative : p.isNegative = true
  · have value : p.value = -p.magnitude := if_pos negative
    rw [if_pos negative]
    split
    · rfl
    · have zero : p.value = 0 := by linarith
      simp [zero, Binary64.nearestRank_zero]
  · have value : p.value = p.magnitude := if_neg negative
    rw [if_neg negative, if_neg (by linarith)]

/-- A plain numeral is read as a finite number exactly if the nearest one is finite. -/
theorem isFinite_rounded : p.rounded.isFinite = (Binary64.nearest p.value).isFinite := by
  obtain ⟨h, rounded⟩ := p.rounded_eq
  rw [rounded, Binary64.isFinite_nearest]
  rfl

/-! ## Integers -/

/-- The text of an integer as a plain numeral. -/
def ofInt (n : ℤ) : PlainNumeral where
  sign := if n < 0 then some true else none
  whole := digits n.natAbs
  fraction := none
  isDigit_of_mem_whole := isDigit_of_mem_digits
  isDigit_of_mem_fraction := by simp
  digits_ne_nil := by simpa using Text.digits_ne_nil n.natAbs

/-- An integer is written as a plain numeral. -/
theorem chars_ofInt (n : ℤ) : (ofInt n).chars = Text.ofInt n := by
  cases n with
  | ofNat n =>
    have nonneg : ¬ Int.ofNat n < 0 := Int.not_lt.mpr (Int.natCast_nonneg n)
    simp only [ofInt, chars, if_neg nonneg]
    exact List.append_nil _
  | negSucc n =>
    simp only [ofInt, chars, if_pos (Int.negSucc_lt_zero n)]
    exact congrArg ('-' :: ·) (List.append_nil _)

/-- The numeral of an integer has a minus exactly if the integer is negative. -/
theorem isNegative_ofInt (n : ℤ) : (ofInt n).isNegative = decide (n < 0) := by
  by_cases negative : n < 0 <;> simp [ofInt, isNegative, negative]

/-- The numeral of an integer stands for it. -/
theorem value_ofInt (n : ℤ) : (ofInt n).value = n := by
  have magnitude : (ofInt n).magnitude = n.natAbs := by
    show (ofDigits (digits n.natAbs) : ℚ) + (ofDigits [] : ℚ) / 10 ^ 0 = _
    rw [ofDigits_digits]
    simp [ofDigits]
  simp only [value, isNegative_ofInt, decide_eq_true_eq, magnitude, Nat.cast_natAbs, Int.cast_abs]
  split_ifs with negative
  · rw [abs_of_neg (by exact_mod_cast negative), neg_neg]
  · exact abs_of_nonneg (by exact_mod_cast not_lt.mp negative)

/-- From the numeral of an integer the sign is split off, and its digits are left. -/
theorem splitSign_ofInt (n : ℤ) : splitSign (Text.ofInt n) = (decide (n < 0), digits n.natAbs) := by
  rw [← chars_ofInt, splitSign_chars, isNegative_ofInt]
  exact congrArg (Prod.mk _) (List.append_nil _)

/-- The number that the numeral of an integer is rounded to is the one nearest to the integer. -/
theorem rounded_ofInt (n : ℤ) : (ofInt n).rounded = Binary64.ofInt n := by
  obtain ⟨h, rounded⟩ := (ofInt n).rounded_eq
  rw [Binary64.ofInt_eq_nearest, rounded, isNegative_ofInt, Binary64.nearest]
  simp only [value_ofInt, Int.cast_lt_zero]
  rfl

end PlainNumeral

end DataGrid
